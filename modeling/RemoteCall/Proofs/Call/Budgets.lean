/-
The two budgets of a call.

`Cycle.Regular` and `Story.Regular` say what any connect cycle and any call look
like from outside: how many sends there may be, which of them may have come to
something, what each look-up leaves out, and after what there is another cycle.

* `Tries.exclusions_eq` — the invariant of a connect cycle: what a look-up leaves
  out is what was left out to begin with, and the instances that refused since.
* `Tries.ended` — the two ways in which a cycle ends.
* `Unfolds.regular` — every call that follows the rules is regular, and so every
  call is (`failover_regular`).
-/
import RemoteCall.Proofs.Client.Surroundings

namespace RemoteCall

open Surroundings (unreachable)

variable {ω : Type} {s : Surroundings ω} {call : Invocation} {P : Scene ω → Prop}

/-! ## Connect cycles -/

/-- A connect cycle as it should be. -/
structure Cycle.Regular (budget : Nat) (c : Cycle ω) : Prop where
  length_le : c.attempts.length ≤ budget
  /-- Only the last send may have come to anything else than a refusal. -/
  refused : ∀ a ∈ c.attempts.dropLast, a.refused = true
  /-- A look-up leaves out exactly what refused earlier in the cycle. -/
  exclusions : ∀ k l, c.lookups[k]? = some l → l.exclusions = c.refusedBefore k
  /-- There is a look-up after the last send only if that one was refused, too. -/
  fruitless : c.fruitless.isSome = true → ∀ a ∈ c.attempts, a.refused = true
  /-- A cycle goes on until a send is not refused or nothing is left to try. -/
  ended : c.Exhausted budget ∨
    (c.fruitless = none ∧ ∃ a, c.attempts.getLast? = some a ∧ a.refused = false)

/-- Why the last instance could not be reached. -/
def lastReason (last : Option CallError) (attempts : List (Attempt ω)) : Option CallError :=
  match attempts.getLast? with
  | none => last
  | some a =>
    match a.answer with
    | .error (.connect message) => some (.connect a.node.address message)
    | _ => none

theorem lastReason_cons {a : Attempt ω} {message : String}
    (answer : a.answer = .error (.connect message)) (last : Option CallError)
    (attempts : List (Attempt ω)) :
    lastReason last (a :: attempts) =
      lastReason (some (.connect a.node.address message)) attempts := by
  cases attempts with
  | nil => simp [lastReason, answer]
  | cons next rest => simp [lastReason, List.getLast?_cons]

namespace Tries

variable {request : Request} {budget : Nat} {failed : List ServiceInstance}
  {last : Option CallError} {attempts : List (Attempt ω)} {fruitless : Option (Lookup ω)}
  {outcome : Outcome}

theorem length_le (h : Tries s call P request budget failed last attempts fruitless outcome) :
    attempts.length ≤ budget := by
  induction h with
  | spent => simp
  | starved => simp
  | refused _ _ _ ih =>
    rw [List.length_cons]
    omega
  | settled => simp

theorem refused_of_mem_dropLast
    (h : Tries s call P request budget failed last attempts fruitless outcome) :
    ∀ a ∈ attempts.dropLast, a.refused = true := by
  induction h with
  | spent => simp
  | starved => simp
  | @refused _ _ a _ attempts _ _ _ answer _ ih =>
    intro b hb
    cases attempts with
    | nil => simp at hb
    | cons next rest =>
      rw [List.dropLast_cons_cons] at hb
      rcases List.mem_cons.mp hb with rfl | hb
      · exact Attempt.refused_iff.mpr ⟨_, answer⟩
      · exact ih b hb
  | settled => simp

/-- Every look-up leaves out what was left out to begin with and what refused since. -/
theorem exclusions_eq
    (h : Tries s call P request budget failed last attempts fruitless outcome) :
    ∀ (k : Nat) (l : Lookup ω),
      (attempts.map Attempt.lookup ++ fruitless.toList)[k]? = some l →
      l.exclusions = failed ++ ((attempts.take k).filter Attempt.refused).map Attempt.node := by
  induction h with
  | spent => simp
  | starved _ _ =>
    intro k l hl
    cases k with
    | zero =>
      simp only [List.map_nil, List.nil_append, Option.toList_some, List.getElem?_cons_zero,
        Option.some.injEq] at hl
      subst hl
      simp
    | succ k => simp at hl
  | refused _ answer _ ih =>
    intro k l hl
    cases k with
    | zero =>
      simp only [List.map_cons, List.cons_append, List.getElem?_cons_zero, Option.some.injEq] at hl
      subst hl
      simp
    | succ k =>
      simp only [List.map_cons, List.cons_append, List.getElem?_cons_succ] at hl
      rw [ih k l hl, List.take_succ_cons,
        List.filter_cons_of_pos (Attempt.refused_iff.mpr ⟨_, answer⟩), List.map_cons]
      simp
  | settled _ _ =>
    intro k l hl
    cases k with
    | zero =>
      simp only [List.map_cons, List.cons_append, List.getElem?_cons_zero, Option.some.injEq] at hl
      subst hl
      simp
    | succ k => simp at hl

/-- A cycle ends because nothing is left to try, or with a send that came to something. -/
theorem ended (h : Tries s call P request budget failed last attempts fruitless outcome) :
    ((∀ a ∈ attempts, a.refused = true) ∧
        (fruitless.isSome = true ∨ attempts.length = budget) ∧
        outcome = .error (unreachable call (failed ++ attempts.map Attempt.node)
          (lastReason last attempts))) ∨
      (fruitless = none ∧ ∃ a, attempts.getLast? = some a ∧ a.refused = false ∧
        a.Genuine s call P request ∧ outcome = a.outcome) := by
  induction h with
  | spent => exact .inl ⟨by simp, .inr rfl, by simp [lastReason]⟩
  | starved => exact .inl ⟨by simp, .inl rfl, by simp [lastReason]⟩
  | @refused budget last a message attempts fruitless outcome _ answer _ ih =>
    rcases ih with ⟨hrefused, hover, houtcome⟩ | ⟨hnone, b, hb, hreached, hgenuine, houtcome⟩
    · refine .inl ⟨?_, ?_, ?_⟩
      · intro b hb
        rcases List.mem_cons.mp hb with rfl | hb
        · exact Attempt.refused_iff.mpr ⟨_, answer⟩
        · exact hrefused b hb
      · rcases hover with hover | hover
        · exact .inl hover
        · exact .inr (by rw [List.length_cons, hover])
      · rw [houtcome, lastReason_cons answer, List.map_cons]
        simp
    · refine .inr ⟨hnone, b, ?_, hreached, hgenuine, houtcome⟩
      cases attempts with
      | nil => simp at hb
      | cons next rest => rw [List.getLast?_cons_cons, hb]
  | @settled _ _ a genuine reached => exact .inr ⟨rfl, a, rfl, reached, genuine, rfl⟩

theorem genuine_of_mem
    (h : Tries s call P request budget failed last attempts fruitless outcome) :
    ∀ a ∈ attempts, a.Genuine s call P request := by
  induction h with
  | spent => simp
  | starved => simp
  | refused genuine _ _ ih => exact List.forall_mem_cons.mpr ⟨genuine, ih⟩
  | settled genuine _ => exact List.forall_mem_singleton.mpr genuine

/-- The instances of a fruitless look-up's exclusions leave no candidate. -/
theorem located_of_fruitless
    (h : Tries s call P request budget failed last attempts fruitless outcome) :
    ∀ l ∈ fruitless, P l.scene ∧ (s.locate l.exclusions l.scene).1 = .done none := by
  induction h with
  | spent => simp
  | @starved _ _ l lookup located =>
    intro l' hl'
    cases hl'
    exact ⟨lookup, located⟩
  | refused _ _ _ ih => exact ih
  | settled => simp

end Tries

namespace Cycle.Tried

variable {c : Cycle ω} {outcome : Outcome}

theorem regular (h : c.Tried s call P outcome) : c.Regular call.method.connectRetry.toNat := by
  obtain ⟨request, h⟩ := h
  refine ⟨h.length_le, h.refused_of_mem_dropLast, fun k l hl => ?_, fun hf => ?_, ?_⟩
  · exact h.exclusions_eq k l hl
  · rcases h.ended with ⟨hrefused, -, -⟩ | ⟨hnone, -⟩
    · exact hrefused
    · rw [hnone] at hf
      cases hf
  · rcases h.ended with ⟨hrefused, hover, -⟩ | ⟨hnone, a, ha, hr, -, -⟩
    · exact .inl ⟨hrefused, hover⟩
    · exact .inr ⟨hnone, a, ha, hr⟩

/-- A cycle whose outcome is a time-out ended with a send that timed out or was cancelled. -/
theorem timedOut {e : CallError} (h : c.Tried s call P (.error e)) (he : e.isTimeout = true) :
    c.TimedOut := by
  obtain ⟨request, h⟩ := h
  rcases h.ended with ⟨-, -, houtcome⟩ | ⟨hnone, a, ha, -, hgenuine, houtcome⟩
  · cases houtcome
    cases he
  · exact ⟨hnone, a, ha, (Attempt.timedOut_iff hgenuine.outcome).mpr ⟨e, houtcome.symm, he⟩⟩

end Cycle.Tried

/-- Once a cycle is regular, what a look-up leaves out is all that was sent to before it. -/
theorem Cycle.Regular.exclusions_eq_take {c : Cycle ω} {budget : Nat} (h : c.Regular budget)
    {k : Nat} {l : Lookup ω} (hl : c.lookups[k]? = some l) :
    l.exclusions = (c.attempts.take k).map Attempt.node := by
  have hrefused : ∀ a ∈ c.attempts.take k, a.refused = true := by
    intro a ha
    rcases Nat.lt_or_ge k c.attempts.length with hk | hk
    · refine h.refused a ?_
      rw [List.dropLast_eq_take]
      exact List.take_subset_take_left _ (by omega) ha
    · refine h.fruitless ?_ a (List.mem_of_mem_take ha)
      cases hf : c.fruitless with
      | none =>
        rw [Cycle.lookups, hf, Option.toList_none, List.append_nil,
          List.getElem?_eq_none (by rwa [List.length_map])] at hl
        cases hl
      | some _ => rfl
  rw [h.exclusions k l hl, Cycle.refusedBefore, List.filter_eq_self.mpr hrefused]

/-! ## Whole calls -/

/-- A story as it should be. -/
structure Story.Regular (connectRetry cycles : Nat) (story : Story ω) : Prop where
  length_le : story.length ≤ cycles
  cycle : ∀ c ∈ story, c.Regular connectRetry
  /-- There is another cycle only after one that timed out. -/
  again : ∀ c ∈ story.dropLast, c.TimedOut
  /-- The clock is read only after a cycle that timed out. -/
  reading : ∀ c ∈ story, c.reading.isSome = true → c.TimedOut

namespace Unfolds

variable {more : Nat} {story : Story ω} {outcome : Outcome}

theorem ne_nil (h : Unfolds s call P more story outcome) : story ≠ [] := by
  cases h <;> simp

theorem regular (h : Unfolds s call P more story outcome) :
    story.Regular call.method.connectRetry.toNat (more + 1) := by
  induction h with
  | settled tried reading _ =>
    refine ⟨by simp, by simpa using tried.regular, by simp, ?_⟩
    simp [reading]
  | expired tried timeout reading _ _ =>
    refine ⟨by simp, by simpa using tried.regular, by simp, ?_⟩
    simpa using fun _ => tried.timedOut timeout
  | @again more c e story outcome tried timeout _ rest ih =>
    have htimedOut := tried.timedOut timeout
    refine ⟨?_, ?_, ?_, ?_⟩
    · rw [List.length_cons]
      exact Nat.succ_le_succ ih.length_le
    · exact List.forall_mem_cons.mpr ⟨tried.regular, ih.cycle⟩
    · rw [List.dropLast_cons_of_ne_nil rest.ne_nil]
      exact List.forall_mem_cons.mpr ⟨htimedOut, ih.again⟩
    · exact List.forall_mem_cons.mpr ⟨fun _ => htimedOut, ih.reading⟩

end Unfolds

/-- Every cycle of a call goes by the rules for cycles. -/
theorem Unfolds.tried_of_mem {more : Nat} {story : Story ω} {outcome : Outcome}
    (h : Unfolds s call P more story outcome) :
    ∀ c ∈ story, ∃ o, c.Tried s call P o := by
  induction h with
  | settled tried _ _ => exact List.forall_mem_singleton.mpr ⟨_, tried⟩
  | expired tried _ _ _ _ => exact List.forall_mem_singleton.mpr ⟨_, tried⟩
  | again tried _ _ _ ih => exact List.forall_mem_cons.mpr ⟨⟨_, tried⟩, ih⟩

/-- Every attempt of a call is one that the surroundings made possible. -/
theorem Unfolds.genuine_of_mem {more : Nat} {story : Story ω} {outcome : Outcome}
    (h : Unfolds s call P more story outcome) :
    ∀ a ∈ story.attempts, ∃ request, a.Genuine s call P request := by
  intro a ha
  obtain ⟨c, hc, hac⟩ := List.mem_flatMap.mp ha
  obtain ⟨_, request, htries⟩ := h.tried_of_mem c hc
  exact ⟨request, htries.genuine_of_mem a hac⟩

/-- What is invariant holds whenever something is looked up. -/
theorem Unfolds.lookup_of_mem {more : Nat} {story : Story ω} {outcome : Outcome}
    (h : Unfolds s call P more story outcome) :
    ∀ c ∈ story, ∀ l ∈ c.lookups, P l.scene := by
  intro c hc l hl
  obtain ⟨o, request, htries⟩ := h.tried_of_mem c hc
  rw [Cycle.lookups, List.mem_append, List.mem_map, Option.mem_toList] at hl
  rcases hl with ⟨a, ha, rfl⟩ | hfruitless
  · exact (htries.genuine_of_mem a ha).lookup
  · exact (htries.located_of_fruitless l hfruitless).1

/-- What a call does is regular, also if it cannot be encoded and does nothing. -/
theorem failover_regular (hP : s.Invariant call P) (scene : Scene ω) (h : P scene) :
    ∃ (story : Story ω) (outcome : Outcome) (after : Scene ω),
      (story = [] ∧ (∃ fault, outcome = .error (.codec fault)) ∨
        Unfolds s call P (call.method.timeoutRetry.toNat - 1) story outcome) ∧
      story.Regular call.method.connectRetry.toNat (max 1 call.method.timeoutRetry.toNat) ∧
      s.failover scene = (.done outcome, after) ∧ s.record scene = Story.events story := by
  obtain ⟨story, outcome, after, hstory, hrun, hrecord⟩ := failover_ends hP scene h
  refine ⟨story, outcome, after, hstory, ?_, hrun, hrecord⟩
  rcases hstory with ⟨rfl, -⟩ | hunfolds
  · exact ⟨by simp, by simp, by simp, by simp⟩
  · have hcycles : call.method.timeoutRetry.toNat - 1 + 1 =
        max 1 call.method.timeoutRetry.toNat := by omega
    rw [← hcycles]
    exact hunfolds.regular

/-! ## Sends -/

/-- The event is a send. -/
def Event.isSent : Event ω → Bool
  | .sent .. => true
  | _ => false

/-- The send of an attempt. -/
def Attempt.sending (a : Attempt ω) : Event ω :=
  .sent a.start a.node a.request a.answer

theorem filter_isSent_tries (attempts : List (Attempt ω)) (fruitless : Option (Lookup ω)) :
    (tries attempts fruitless).filter Event.isSent = attempts.map Attempt.sending := by
  induction attempts with
  | nil => cases fruitless <;> rfl
  | cons a attempts ih =>
    rw [tries_cons, Attempt.exchange, List.filter_cons_of_neg (by simp [Event.isSent]),
      List.cons_append, List.filter_cons_of_pos (by rfl), List.cons_append,
      List.filter_cons_of_neg (by simp [Event.isSent]), List.nil_append, ih, List.map_cons]
    rfl

namespace Story

/-- The sends of a record are the attempts of its story. -/
theorem filter_isSent_events (story : Story ω) :
    story.events.filter Event.isSent = story.attempts.map Attempt.sending := by
  induction story with
  | nil => rfl
  | cons c rest ih =>
    have hreading : (c.reading.toList.map Event.read).filter Event.isSent = [] := by
      cases c.reading <;> rfl
    rw [events_cons, List.filter_append, List.filter_append, filter_isSent_tries, hreading, ih,
      attempts_cons, List.map_append, List.nil_append]

theorem countP_isSent_events (story : Story ω) :
    story.events.countP Event.isSent = story.attempts.length := by
  rw [List.countP_eq_length_filter, filter_isSent_events, List.length_map]

theorem attempts_length_le {n : Nat} {story : Story ω}
    (h : ∀ c ∈ story, c.attempts.length ≤ n) : story.attempts.length ≤ story.length * n := by
  induction story with
  | nil => simp
  | cons c rest ih =>
    obtain ⟨hc, hrest⟩ := List.forall_mem_cons.mp h
    rw [attempts_cons, List.length_append, List.length_cons, Nat.succ_mul]
    have := ih hrest
    omega

end Story

/-! ## The budgets hold -/

theorem toNat_ofNat_of_le {n : Nat} {bound : UInt32} (h : n ≤ bound.toNat) :
    (UInt32.ofNat n).toNat = n :=
  UInt32.toNat_ofNat_of_lt' (Nat.lt_of_le_of_lt h bound.toNat_lt)

/-- **A call keeps its budgets.** Whatever its locator and its connector answer, a call ends.
Its sends come in at most `timeoutRetry` cycles of at most `connectRetry` sends each. In a cycle
only the last send may be anything else than refused, every look-up leaves out exactly what was
refused in the same cycle so far, and another cycle follows only a send that timed out or was
cancelled. Both counts fit into a word of 32 bits. -/
theorem failover_keeps_budgets (hs : s.Orderly) (scene : Scene ω)
    (ht : 1 ≤ scene.invocation.method.timeoutRetry) :
    ∃ (outcome : Outcome) (after : Scene ω) (story : Story ω),
      s.failover scene = (.done outcome, after) ∧ s.record scene = story.events ∧
      story.Regular scene.invocation.method.connectRetry.toNat
        scene.invocation.method.timeoutRetry.toNat ∧
      (s.record scene).countP Event.isSent ≤
        scene.invocation.method.connectRetry.toNat *
          scene.invocation.method.timeoutRetry.toNat ∧
      (UInt32.ofNat story.length).toNat = story.length ∧
      ∀ c ∈ story, (UInt32.ofNat c.attempts.length).toNat = c.attempts.length := by
  obtain ⟨story, outcome, after, -, hregular, hrun, hrecord⟩ :=
    failover_regular (hs.invariant scene.invocation) scene rfl
  have hcycles : max 1 scene.invocation.method.timeoutRetry.toNat =
      scene.invocation.method.timeoutRetry.toNat :=
    Nat.max_eq_right (UInt32.le_iff_toNat_le.mp ht)
  rw [hcycles] at hregular
  refine ⟨outcome, after, story, hrun, hrecord, hregular, ?_,
    toNat_ofNat_of_le hregular.length_le,
    fun c hc => toNat_ofNat_of_le (hregular.cycle c hc).length_le⟩
  rw [hrecord, Story.countP_isSent_events, Nat.mul_comm]
  calc story.attempts.length
      ≤ story.length * scene.invocation.method.connectRetry.toNat :=
        Story.attempts_length_le fun c hc => (hregular.cycle c hc).length_le
    _ ≤ _ := Nat.mul_le_mul_right _ hregular.length_le

/-- A call with two sends a cycle and three cycles, through a link to two instances. The first
of them refuses, the second comes too late, and from then on nothing can be reached. -/
theorem greeting_keeps_budgets :
    let network := Script.linked [.error (.connect "refused"), .error (.timeout "too late")]
    let s := (Script.client network).surroundings (some 0)
    let scene := Script.greeting 2 3 network
    ∃ (outcome : Outcome) (after : Scene _) (story : Story _),
      s.failover scene = (.done outcome, after) ∧ s.record scene = story.events ∧
      story.Regular 2 3 ∧ (s.record scene).countP Event.isSent ≤ 6 := by
  intro network s scene
  obtain ⟨outcome, after, story, hrun, hrecord, hregular, hsends, -, -⟩ :=
    failover_keeps_budgets (Script.orderly network (some 0)) scene (by decide)
  exact ⟨outcome, after, story, hrun, hrecord, hregular, hsends⟩

end RemoteCall
