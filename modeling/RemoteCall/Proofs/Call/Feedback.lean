/-
Every send is reported once, and the accounts of a locator are exact.

A record of a call is `Reported` if each send is followed at once by the feedback about
it, and no feedback comes without a send. Where several calls go through one locator,
their events are in one log, in any order that keeps the order of each call; the locator
goes through the log.

* `Story.reported` — a call reports its sends, attempt by attempt.
* `countP_eq_sum` — what is counted in a log is counted call by call.
-/
import RemoteCall.Proofs.Call.Budgets
import RemoteCall.Proofs.Client.Usage

namespace RemoteCall

variable {ω : Type} {s : Surroundings ω} {call : Invocation}

/-! ## Reports -/

/-- An outcome is good exactly if the response could be decoded, whatever the reply says. -/
theorem succeeded_outcome_iff (s : Surroundings ω) (call : Invocation) (node : ServiceInstance)
    (answer : Except TransportError Response) :
    succeeded (s.outcome call node answer) = true ↔ ∃ response reply, answer = .ok response ∧
      s.plugins.decodeReply call.method.codec.serializer response = .ok reply := by
  cases answer with
  | error fault => simp [Surroundings.outcome, succeeded]
  | ok response =>
    cases h : s.plugins.decodeReply call.method.codec.serializer response <;>
      simp [Surroundings.outcome, succeeded, h, Except.mapError]

/-- Every send goes to the address that the call has by then, and is followed at once by the
feedback about it: of the same instance, with a good outcome exactly if the response could be
decoded. There is no other feedback. -/
structure Record.Reported (s : Surroundings ω) (call : Invocation) (record : Record ω) :
    Prop where
  sent : ∀ (k : Nat) scene node request answer,
    record[k]? = some (.sent scene node request answer) →
      scene.invocation.remoteAddress = some node.address ∧
      ∃ finish outcome elapsed, record[k + 1]? = some (.heard finish node outcome elapsed) ∧
        (succeeded outcome = true ↔ ∃ response reply, answer = .ok response ∧
          s.plugins.decodeReply call.method.codec.serializer response = .ok reply)
  heard : ∀ (k : Nat) finish node outcome elapsed,
    record[k]? = some (.heard finish node outcome elapsed) →
      ∃ j scene request answer, k = j + 1 ∧ record[j]? = some (.sent scene node request answer)

namespace Record.Reported

variable {first more : Record ω}

theorem nil : Reported s call [] := ⟨by simp, by simp⟩

theorem singleton {e : Event ω} (hsent : e.isSent = false) (hheard : e.isHeard = false) :
    Reported s call [e] := by
  constructor
  case sent =>
    intro k scene node request answer h
    obtain rfl := List.mem_singleton.mp (List.mem_of_getElem? h)
    cases hsent
  case heard =>
    intro k finish node outcome elapsed h
    obtain rfl := List.mem_singleton.mp (List.mem_of_getElem? h)
    cases hheard

/-- A report is whole before the next piece begins. -/
theorem append (hfirst : Reported s call first) (hmore : Reported s call more) :
    Reported s call (first ++ more) := by
  constructor
  case sent =>
    -- a send is never the last of a piece, so that its feedback is in the same one
    intro k scene node request answer h
    rcases Nat.lt_or_ge k first.length with hk | hk
    · rw [List.getElem?_append_left hk] at h
      obtain ⟨haddress, finish, outcome, elapsed, hheard, hiff⟩ := hfirst.sent k _ _ _ _ h
      obtain ⟨hnext, -⟩ := List.getElem?_eq_some_iff.mp hheard
      exact ⟨haddress, finish, outcome, elapsed,
        by rw [List.getElem?_append_left hnext, hheard], hiff⟩
    · rw [List.getElem?_append_right hk] at h
      obtain ⟨haddress, finish, outcome, elapsed, hheard, hiff⟩ := hmore.sent _ _ _ _ _ h
      refine ⟨haddress, finish, outcome, elapsed, ?_, hiff⟩
      rw [List.getElem?_append_right (by omega), Nat.sub_add_comm hk, hheard]
  case heard =>
    intro k finish node outcome elapsed h
    rcases Nat.lt_or_ge k first.length with hk | hk
    · rw [List.getElem?_append_left hk] at h
      obtain ⟨j, scene, request, answer, rfl, hsent⟩ := hfirst.heard k _ _ _ _ h
      exact ⟨j, scene, request, answer, rfl, by rw [List.getElem?_append_left (by omega), hsent]⟩
    · rw [List.getElem?_append_right hk] at h
      obtain ⟨j, scene, request, answer, hj, hsent⟩ := hmore.heard _ _ _ _ _ h
      refine ⟨first.length + j, scene, request, answer, by omega, ?_⟩
      rw [List.getElem?_append_right (by omega), Nat.add_sub_cancel_left, hsent]

end Record.Reported

/-! ## Attempts report -/

/-- The attempt is sent to the address that the call has by then, and its outcome is what the
answer means. -/
structure Attempt.Reporting (s : Surroundings ω) (call : Invocation) (a : Attempt ω) : Prop where
  address : a.start.invocation.remoteAddress = some a.node.address
  outcome : a.outcome = s.outcome call a.node a.answer

/-- Reading the stopwatch does not change the call. -/
def Surroundings.WatchAside (s : Surroundings ω) : Prop :=
  ∀ scene, (s.stopwatch scene).2.invocation = scene.invocation

namespace Attempt

variable {P : Scene ω → Prop} {request : Request} {a : Attempt ω}

theorem Genuine.reporting (h : a.Genuine s call P request) (hwatch : s.WatchAside) :
    a.Reporting s call := by
  obtain ⟨scene, haddress, hstart⟩ := h.addressed
  refine ⟨?_, h.outcome⟩
  rw [← hstart, hwatch, haddress]

theorem Reporting.reported (h : a.Reporting s call) : Record.Reported s call a.exchange := by
  constructor
  case sent =>
    intro k scene node request answer hk
    match k with
    | 0 =>
      cases hk
      refine ⟨h.address, a.finish, a.outcome, a.elapsed, rfl, ?_⟩
      rw [h.outcome, succeeded_outcome_iff]
    | 1 => cases hk
    | k + 2 => cases hk
  case heard =>
    intro k finish node outcome elapsed hk
    match k with
    | 0 => cases hk
    | 1 =>
      cases hk
      exact ⟨0, a.start, a.request, a.answer, rfl, rfl⟩
    | k + 2 => cases hk

end Attempt

theorem tries_reported {attempts : List (Attempt ω)} (fruitless : Option (Lookup ω))
    (h : ∀ a ∈ attempts, a.Reporting s call) :
    Record.Reported s call (tries attempts fruitless) := by
  induction attempts with
  | nil =>
    cases fruitless with
    | none => exact .nil
    | some lookup => exact .singleton rfl rfl
  | cons a attempts ih =>
    obtain ⟨ha, hrest⟩ := List.forall_mem_cons.mp h
    rw [tries_cons]
    exact (Record.Reported.singleton rfl rfl).append (ha.reported.append (ih hrest))

theorem Story.reported {story : Story ω} (h : ∀ a ∈ story.attempts, a.Reporting s call) :
    Record.Reported s call story.events := by
  induction story with
  | nil => exact .nil
  | cons c rest ih =>
    rw [Story.attempts_cons, List.forall_mem_append] at h
    have hreading : Record.Reported s call (c.reading.toList.map .read) := by
      cases c.reading with
      | none => exact .nil
      | some reading => exact .singleton rfl rfl
    rw [Story.events_cons]
    exact (tries_reported c.fruitless h.1).append (hreading.append (ih h.2))

/-! ## Sends and feedbacks are as many -/

/-- The event is a send to an instance with the code, and its outcome counts. -/
def Event.sends (s : Surroundings ω) (call : Invocation) (counts : Outcome → Bool)
    (code : String) : Event ω → Bool
  | .sent _ node _ answer => node.code == code && counts (s.outcome call node answer)
  | _ => false

/-- Two ways to count come to the same if they do on sends with their feedbacks, and neither
counts anything else. -/
theorem Story.countP_eq {p q : Event ω → Bool} {story : Story ω}
    (exchange : ∀ a ∈ story.attempts, a.exchange.countP p = a.exchange.countP q)
    (located : ∀ lookup picked, p (.located lookup picked) = q (.located lookup picked))
    (read : ∀ reading, p (.read reading) = q (.read reading)) :
    story.events.countP p = story.events.countP q := by
  have htries : ∀ (attempts : List (Attempt ω)) (fruitless : Option (Lookup ω)),
      (∀ a ∈ attempts, a.exchange.countP p = a.exchange.countP q) →
        (tries attempts fruitless).countP p = (tries attempts fruitless).countP q := by
    intro attempts fruitless h
    induction attempts with
    | nil => cases fruitless <;> simp [List.countP_cons, located]
    | cons a attempts ih =>
      obtain ⟨ha, hrest⟩ := List.forall_mem_cons.mp h
      rw [tries_cons, List.countP_cons, List.countP_cons, List.countP_append, List.countP_append,
        ha, ih hrest, located]
  induction story with
  | nil => rfl
  | cons c rest ih =>
    rw [Story.attempts_cons, List.forall_mem_append] at exchange
    have hreading : (c.reading.toList.map Event.read).countP p =
        (c.reading.toList.map Event.read).countP q := by
      cases c.reading <;> simp [List.countP_cons, read]
    rw [Story.events_cons, List.countP_append, List.countP_append, List.countP_append,
      List.countP_append, htries _ _ exchange.1, hreading, ih exchange.2]

theorem Story.countP_sends {story : Story ω} (h : ∀ a ∈ story.attempts, a.Reporting s call)
    (counts : Outcome → Bool) (code : String) :
    story.events.countP (Event.sends s call counts code) =
      story.events.countP (Event.reports counts code) := by
  refine Story.countP_eq (fun a ha => ?_) (fun _ _ => rfl) fun _ => rfl
  simp [Attempt.exchange, List.countP_cons, Event.sends, Event.reports, (h a ha).outcome]

theorem Story.countP_isSent (story : Story ω) :
    story.events.countP Event.isSent = story.events.countP Event.isHeard :=
  Story.countP_eq (fun a _ => by simp [Attempt.exchange, List.countP_cons, Event.isSent,
    Event.isHeard]) (fun _ _ => rfl) fun _ => rfl

/-- A call reports what it sends. -/
theorem failover_reporting (hs : s.Orderly) (hwatch : s.WatchAside) (scene : Scene ω) :
    ∃ story : Story ω, s.record scene = story.events ∧
      ∀ a ∈ story.attempts, a.Reporting s scene.invocation := by
  obtain ⟨story, outcome, after, hstory, -, hrecord⟩ :=
    failover_ends (hs.invariant scene.invocation) scene rfl
  refine ⟨story, hrecord, fun a ha => ?_⟩
  rcases hstory with ⟨rfl, -⟩ | hunfolds
  · simp at ha
  · obtain ⟨request, hgenuine⟩ := hunfolds.genuine_of_mem a ha
    exact hgenuine.reporting hwatch

/-- A call sends no more than its budgets allow. -/
theorem countP_isSent_record_le (hs : s.Orderly) (scene : Scene ω) :
    (s.record scene).countP Event.isSent ≤
      max 1 scene.invocation.method.timeoutRetry.toNat *
        scene.invocation.method.connectRetry.toNat := by
  obtain ⟨story, -, -, -, hregular, -, hrecord⟩ :=
    failover_regular (hs.invariant scene.invocation) scene rfl
  rw [hrecord, Story.countP_isSent_events]
  calc story.attempts.length
      ≤ story.length * scene.invocation.method.connectRetry.toNat :=
        Story.attempts_length_le fun c hc => (hregular.cycle c hc).length_le
    _ ≤ _ := Nat.mul_le_mul_right _ hregular.length_le

/-! ## Several calls -/

section Log

variable {ι : Type} [DecidableEq ι]

/-- What one of the calls did. -/
def ofCall (log : List (ι × Event ω)) (i : ι) : Record ω :=
  (log.filter fun e => e.1 = i).map (·.2)

/-- What is counted in a log is counted call by call. -/
theorem countP_eq_sum (p : ι × Event ω → Bool) {calls : Finset ι} {log : List (ι × Event ω)}
    (h : ∀ e ∈ log, e.1 ∈ calls) :
    log.countP p = ∑ i ∈ calls, (ofCall log i).countP fun e => p (i, e) := by
  induction log with
  | nil => simp [ofCall]
  | cons e log ih =>
    obtain ⟨he, hlog⟩ := List.forall_mem_cons.mp h
    -- an event adds to the count of its own call, and nothing to the others
    have hcons : ∀ i, (ofCall (e :: log) i).countP (fun e => p (i, e)) =
        (ofCall log i).countP (fun e => p (i, e)) +
          if e.1 = i then if p e then 1 else 0 else 0 := by
      intro i
      by_cases hi : e.1 = i
      · subst hi
        simp [ofCall, List.countP_cons]
      · simp [ofCall, hi]
    simp only [hcons, Finset.sum_add_distrib, ← ih hlog, List.countP_cons, Finset.sum_ite_eq, he,
      if_true]

/-- Two ways to count come to the same in a log if they do in each call. -/
theorem countP_log_congr {p q : ι × Event ω → Bool} {log : List (ι × Event ω)}
    (h : ∀ i, (ofCall log i).countP (fun e => p (i, e)) =
      (ofCall log i).countP fun e => q (i, e)) : log.countP p = log.countP q := by
  have hmem : ∀ e ∈ log, e.1 ∈ (log.map (·.1)).toFinset := fun e he =>
    List.mem_toFinset.mpr (List.mem_map_of_mem he)
  rw [countP_eq_sum p hmem, countP_eq_sum q hmem]
  exact Finset.sum_congr rfl fun i _ => h i

/-- **Every send is reported once, and counted once.** Any number of calls go through one
locator, with their events in any order. In each call a send to an instance goes to its address
and is followed at once by the feedback about it, good exactly if the response could be decoded.
If the locator had no statistics before, and a word can hold the number of sends, then in the end
every account has one count for each send to its code and for each of those that failed, and all
accounts together have one for each send. -/
theorem sends_are_reported_and_counted {β : Type} [Discovery β] {s : ι → Surroundings ω}
    (hs : ∀ i, (s i).Orderly) (hwatch : ∀ i, (s i).WatchAside) (scene : ι → Scene ω)
    {log : List (ι × Event ω)} (hlog : ∀ i, ofCall log i = (s i).record (scene i))
    {l n : AnyLocator β} (hempty : l.book = ∅) (hused : AnyLocator.Used l (log.map (·.2)) n)
    (hsmall : log.countP (·.2.isSent) < UInt64.size) :
    (∀ i, Record.Reported (s i) (scene i).invocation (ofCall log i)) ∧
    (∀ code,
      (n.book.account code).total.toNat = log.countP (fun e =>
        e.2.sends (s e.1) (scene e.1).invocation (fun _ => true) code) ∧
      (n.book.account code).failed.toNat = log.countP (fun e =>
        e.2.sends (s e.1) (scene e.1).invocation (fun outcome => !succeeded outcome) code)) ∧
    ∑ code ∈ n.book.keys.toFinset, (n.book.account code).total.toNat =
      log.countP (·.2.isSent) := by
  have hstory : ∀ i, ∃ story : Story ω, ofCall log i = story.events ∧
      ∀ a ∈ story.attempts, a.Reporting (s i) (scene i).invocation := by
    intro i
    rw [hlog]
    exact failover_reporting (hs i) (hwatch i) (scene i)
  have hsent : log.countP (·.2.isSent) = (log.map (·.2)).countP Event.isHeard := by
    rw [List.countP_map]
    refine countP_log_congr fun i => ?_
    obtain ⟨story, hevents, -⟩ := hstory i
    rw [hevents]
    exact story.countP_isSent
  have hsends : ∀ counts code, (log.map (·.2)).countP (Event.reports counts code) =
      log.countP fun e => e.2.sends (s e.1) (scene e.1).invocation counts code := by
    intro counts code
    rw [List.countP_map]
    refine countP_log_congr fun i => ?_
    obtain ⟨story, hevents, hreporting⟩ := hstory i
    rw [hevents]
    exact (Story.countP_sends hreporting counts code).symm
  obtain ⟨haccounts, hsum⟩ := hused.accounts hempty (by rwa [← hsent])
  refine ⟨fun i => ?_, fun code => ⟨?_, ?_⟩, ?_⟩
  · obtain ⟨story, hevents, hreporting⟩ := hstory i
    rw [hevents]
    exact Story.reported hreporting
  · rw [(haccounts code).1, hsends]
  · rw [(haccounts code).2, hsends]
  · rw [hsum, hsent]

end Log

/-- Two calls through a link to two instances, one after the other. The first of them is
refused, comes too late, and gets a response that it cannot read; the second reaches nobody. -/
theorem greetings_are_reported_and_counted :
    let network := Script.linked [.error (.connect "refused"), .error (.timeout "too late"),
      .ok ⟨.success, ∅, [0]⟩]
    let s := (Script.client network).surroundings (some 0)
    let first := Script.greeting 2 3 network
    ∃ outcome between, s.failover first = (.done outcome, between) ∧
      let second := Script.greeting 2 1 between.outside
      let sends := (s.record first).countP Event.isSent + (s.record second).countP Event.isSent
      Record.Reported s first.invocation (s.record first) ∧
      Record.Reported s second.invocation (s.record second) ∧
      ∃ n : AnyLocator MemoryDiscovery,
        ∑ code ∈ n.book.keys.toFinset, (n.book.account code).total.toNat = sends := by
  intro network s first
  have hs : s.Orderly := Script.orderly network (some 0)
  have huses : s.Uses (Network.linkAt MemoryDiscovery 0) := Script.uses_link _ network 0
  have hlink : Network.linkAt MemoryDiscovery 0 first.outside =
      some (.inl { instances := Script.greeters }) := rfl
  obtain ⟨outcome, between, m, hrun, hm, hfirst⟩ := huses.used hs hlink
  refine ⟨outcome, between, hrun, ?_⟩
  intro second sends
  have hagain : Network.linkAt MemoryDiscovery 0 second.outside = some m := hm
  obtain ⟨-, -, n, -, -, hsecond⟩ := huses.used hs hagain
  let log : List (Bool × Event _) :=
    (s.record first).map (Prod.mk false) ++ (s.record second).map (Prod.mk true)
  let scenes : Bool → Scene _ := fun i => if i then second else first
  have hlog : ∀ i, ofCall log i = s.record (scenes i) := by
    intro i
    cases i <;> simp [ofCall, log, scenes, List.filter_map, Function.comp_def]
  have hused : AnyLocator.Used (.inl { instances := Script.greeters }) (log.map (·.2)) n := by
    simpa [log, Function.comp_def] using hfirst.append hsecond
  have hsends : log.countP (·.2.isSent) = sends := by
    simp [log, sends, List.countP_map, Function.comp_def]
  have hsmall : sends < UInt64.size := by
    have hle := countP_isSent_record_le hs first
    have hle' := countP_isSent_record_le hs second
    have hbound : max 1 (3 : UInt32).toNat * (2 : UInt32).toNat +
        max 1 (1 : UInt32).toNat * (2 : UInt32).toNat < UInt64.size := by decide
    exact Nat.lt_of_le_of_lt (Nat.add_le_add hle hle') hbound
  have hwatch : s.WatchAside := fun _ => rfl
  obtain ⟨hreported, -, hsum⟩ := sends_are_reported_and_counted (s := fun _ => s)
    (fun _ => hs) (fun _ => hwatch) scenes hlog rfl hused (by rwa [hsends])
  refine ⟨?_, ?_, n, hsum.trans hsends⟩
  · have hfalse := hreported false
    rwa [hlog] at hfalse
  · have htrue := hreported true
    rwa [hlog] at htrue

end RemoteCall
