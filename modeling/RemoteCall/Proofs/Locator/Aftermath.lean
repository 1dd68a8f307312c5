/-
What the registry is still asked once its locator is destroyed.

A destroy notifies the refreshers and sets a flag for the callers, and waits for neither. A
caller that is past the flag goes on to load its subscription, and a refresher may come to a
tick before it comes to its handle. That is all: no one who looks at the flag gets past it
any more, and how many calls each caller has left can be told from its stage (`left`).

* `Activity.destroyed_locator_still_asks` — both of the above, after the destroy returned.
* `Activity.destroyed_asks_only_what_was_begun` — who can still call the registry, and how
  often.
-/
import RemoteCall.Proofs.Locator.Loads

namespace RemoteCall

namespace Traffic

open Subscriptions

variable {s s' : Traffic} {action : Action} {k d : Nat} {id : SubscriptionId} {name : String}

/-! ## Once the flag is set -/

/-- A destroy that is through stays so. -/
theorem finished_of_moves (h : s.Moves action s') (finished : s.destroyers d = .finished) :
    s'.destroyers d = .finished := by
  cases h with
  | skip idle | destroy idle =>
    rw [destroyers_setDestroyer, if_neg fun heq => ?_]
    · exact finished
    · rw [← heq, finished] at idle
      cases idle
  | sweep name sweeping =>
    rw [destroyers_setDestroyer, if_neg fun heq => ?_]
    · exact finished
    · rw [← heq, finished] at sweeping
      cases sweeping
  | finish =>
    rw [destroyers_setDestroyer]
    split
    · rfl
    · exact finished
  | _ => exact finished

/-- Nobody gets past the flag. -/
theorem passed_of_moves (h : s.Moves action s') (flag : s.table.destroyed = true) :
    (∀ name, s'.subscribers k = .admitted name → s.subscribers k = .admitted name) ∧
      ∀ id, s'.subscribers k = .subscribed id → s.subscribers k = .subscribed id := by
  cases h with
  | begin =>
    rw [subscribers_setSubscriber]
    split
    · exact ⟨nofun, nofun⟩
    · exact ⟨fun _ hk => hk, fun _ hk => hk⟩
  | @advance k' table now next =>
    rw [subscribers_setSubscriber]
    split
    · have proceeds := Subscriber.proceeds_of_next next
      generalize s.subscribers k' = before at proceeds
      cases proceeds with
      | welcome alive | subscribe alive =>
        rw [flag] at alive
        cases alive
      | _ => exact ⟨nofun, nofun⟩
    · exact ⟨fun _ hk => hk, fun _ hk => hk⟩
  | _ => exact ⟨fun _ hk => hk, fun _ hk => hk⟩

/-- Only a subscribe that found the locator alive starts a refresher. -/
theorem name?_of_moves (h : s.Moves action s') (hchore : ∀ chore, action ≠ .chore chore)
    (hid : s'.table.name? id = some name) :
    s.table.name? id = some name ∨ ∃ k, s.subscribers k = .admitted name := by
  cases h with
  | @advance k table now next =>
    change table.name? id = some name at hid
    have proceeds := Subscriber.proceeds_of_next next
    generalize hk : s.subscribers k = before at proceeds
    cases proceeds with
    | @insert new =>
      rcases s.table.profile?_insertIfAbsent new with ⟨-, hsame⟩ | ⟨-, -, -, hprofile⟩
      · rw [hsame] at hid
        exact .inl hid
      · rw [name?, hprofile] at hid
        split at hid
        · cases hid
          exact .inr ⟨k, hk⟩
        · exact .inl hid
    | notify =>
      rw [name?, profile?_notify] at hid
      exact .inl hid
    | _ => exact .inl hid
  | sweep other sweeping =>
    change (s.table.stop other).name? id = some name at hid
    rw [name?, profile?_stop] at hid
    exact .inl hid
  | chore chore => exact absurd rfl (hchore chore)
  | _ => exact .inl hid

end Traffic

namespace Activity

open Subscriptions

variable {plan : Plan} {s s' later : Activity} {w : Worker} {stage : Stage}
  {events : List Event} {t : Subscriptions} {k d : Nat} {id : SubscriptionId} {m : Mark}

/-- A destroy lets go of the registry once it is through with the refreshers. -/
theorem Reachable.finished_of_released (h : s.Reachable plan) (released : s.releases d ≠ .pending) :
    s.traffic.destroyers d = .finished := by
  induction h with
  | refl => exact absurd rfl released
  | @tail s s' _ step ih =>
    cases step with
    | traffic _ step => exact Traffic.finished_of_moves (Traffic.moves_of_step step) (ih released)
    | turn turn => exact ih released
    | @release d' finished pending =>
      by_cases hd : d = d'
      · exact hd ▸ finished
      · refine ih fun hpending => released ?_
        show Function.update s.releases d' .releasing d = .pending
        rw [Function.update_of_ne hd, hpending]
    | @released d' releasing =>
      refine ih fun hpending => ?_
      by_cases hd : d = d'
      · rw [← hd, hpending] at releasing
        cases releasing
      · refine released ?_
        show Function.update s.releases d' .done d = .pending
        rw [Function.update_of_ne hd, hpending]
    | pass => exact ih released

theorem Reachable.swept (h : s.Reachable plan) (destroyed : s.Destroyed) : s.traffic.Swept := by
  obtain ⟨d, hd⟩ := destroyed
  exact ⟨d, h.finished_of_released (by rw [hd]; nofun)⟩

/-- What has returned has returned for good. -/
theorem Runs.destroyed (h : Runs plan s later) (destroyed : s.Destroyed) : later.Destroyed := by
  induction h with
  | refl => exact destroyed
  | @tail s' later _ step ih =>
    obtain ⟨d, hd⟩ := ih
    refine ⟨d, ?_⟩
    cases step with
    | @release d' finished pending =>
      by_cases heq : d = d'
      · rw [heq, pending] at hd
        cases hd
      · exact (Function.update_of_ne heq ..).trans hd
    | @released d' releasing =>
      by_cases heq : d = d'
      · rw [heq, releasing] at hd
        cases hd
      · exact (Function.update_of_ne heq ..).trans hd
    | _ => exact hd

/-! ## Calls that are left -/

/-- Questions of a worker. -/
def ofWorker (w : Worker) (q : Query) : Bool := q.worker = w

/-- How many calls or results of a kind there can be from this stage on. -/
def Stage.left (m : Mark) : Stage → Nat
  | idle | entered => 1
  | hinting | hinted => if m = .hint then 0 else 1
  | listing _ | answered _ _ => if m = .result then 1 else 0
  | _ => 0

/-- A caller has calls left only if it is past the flag. -/
def left (s : Activity) (m : Mark) (k : Nat) : Nat :=
  match s.traffic.subscribers k with
  | .subscribed _ => (s.stages (.caller k)).left m
  | _ => 0

theorem left_of_subscribed (got : s.traffic.subscribers k = .subscribed id) :
    s.left m k = (s.stages (.caller k)).left m := by
  rw [left, got]

theorem left_le_one : s.left m k ≤ 1 := by
  unfold left Stage.left
  repeat' split
  all_goals omega

/-- With each call a caller uses up what it has left. -/
theorem Turn.left_le (h : s.Turn plan w stage events t) (who : w = .caller k) :
    tally m (ofWorker w) events + stage.left m ≤ (s.stages w).left m := by
  subst who
  cases h with
  | arrive _ idle | enter _ idle | leave _ idle =>
    rw [idle]
    exact Nat.le_of_ble_eq_true rfl
  | hint asks who entered =>
    rw [entered, tally_singleton]
    cases m <;> simp [Event.isMark, Stage.left, ofWorker, (asks.eq_of_caller who).2.2, who]
  | accept asks who hinting =>
    rw [hinting, tally_singleton]
    cases m <;> simp [Event.isMark, Stage.left]
  | ask asks who hinted =>
    rw [hinted, tally_singleton]
    cases m <;> simp [Event.isMark, Stage.left, ofWorker, (asks.eq_of_caller who).2.2, who]
  | answer listing =>
    rw [listing]
    cases m <;> simp [tally, Stage.left]
  | take asks who answered =>
    rw [answered, tally_singleton]
    cases m <;>
      simp [Event.isMark, Stage.left, Worker.after, ofWorker, (asks.eq_of_caller who).2.2, who]
  | look =>
    rw [tally_singleton]
    simp [Event.isMark, Stage.left]
  | _ => exact Nat.zero_le _

/-- Whoever takes a turn as a caller has its subscription. -/
theorem Turn.subscribed (h : s.Turn plan w stage events t) (who : w = .caller k)
    (hcells : s.Cells) : ∃ id, s.traffic.subscribers k = .subscribed id := by
  subst who
  cases h with
  | arrive got | enter got | complete got | leave got | abandon got => exact ⟨_, got⟩
  | hint asks who | ask asks who | accept asks who | take asks who =>
    exact ⟨_, (asks.eq_of_caller who).1⟩
  | answer listing => exact hcells.got k (by rw [listing]; nofun)
  | look _ returned => exact hcells.got k (by rw [returned]; nofun)
  | pick _ choosing => exact hcells.got k (by rw [choosing]; nofun)

/-- What others do leaves no mark of a caller. -/
theorem Turn.tally_of_ne (h : s.Turn plan w stage events t) {w' : Worker} (hne : w' ≠ w) :
    tally m (ofWorker w') events = 0 := by
  have hsingle : ∀ {q : Query}, q.worker = w → ofWorker w' q = false := by
    rintro q rfl
    simpa [ofWorker] using hne.symm
  cases h with
  | hint _ who | ask _ who | take _ who | tick _ who =>
    rw [tally_singleton]
    simp [Event.isMark, hsingle who]
  | _ => rfl

/-! ## Refreshers -/

/-- A refresher asks only in its own name, without hints, and not if it has stopped. -/
theorem Turn.asked_by_refresher (h : s.Turn plan w stage events t) {q : Query}
    (who : q.worker = .refresher id) :
    Event.hinted q ∉ events ∧ (Event.asked q ∈ events →
      s.stages (.refresher id) ≠ .stopped ∧ s.table.name? id = some q.name) := by
  cases h with
  | hint asks who' =>
    refine ⟨fun hmem => ?_, fun hmem => ?_⟩
    · cases List.mem_singleton.mp hmem
      rw [who] at who'
      cases who'
    · cases List.mem_singleton.mp hmem
  | ask asks who' =>
    refine ⟨fun hmem => ?_, fun hmem => ?_⟩
    · cases List.mem_singleton.mp hmem
    · cases List.mem_singleton.mp hmem
      rw [who] at who'
      cases who'
  | tick asks who' idle =>
    refine ⟨fun hmem => ?_, fun hmem => ?_⟩
    · cases List.mem_singleton.mp hmem
    · cases List.mem_singleton.mp hmem
      cases asks with
      | caller => cases who
      | refresher get =>
        cases who
        cases who'
        exact ⟨by rw [idle]; nofun, name?_of_get? get⟩
  | accept | take | look =>
    refine ⟨fun hmem => ?_, fun hmem => ?_⟩ <;> cases List.mem_singleton.mp hmem
  | _ => exact ⟨nofun, nofun⟩

/-- A refresher that has stopped does nothing more. -/
theorem Turn.ne_stopped (h : s.Turn plan w stage events t) (who : w = .refresher id) :
    s.stages w ≠ .stopped := by
  subst who
  cases h with
  | answer listing => rw [listing]; nofun
  | take _ _ answered => rw [answered]; nofun
  | wake _ idle | tick _ _ idle | heed idle => rw [idle]; nofun

theorem Step.stopped (h : s.Step plan s') (hid : s.stages (.refresher id) = .stopped) :
    s'.stages (.refresher id) = .stopped := by
  cases h with
  | turn turn =>
    rw [stages_turned, if_neg fun heq => ?_]
    · exact hid
    · exact turn.ne_stopped heq.symm (heq ▸ hid)
  | _ => exact hid

/-! ## Steps after a destroy -/

/-- What a step tells of calls: callers use up what they have left, and refreshers ask that have
not stopped. -/
structure Calls (s s' : Activity) (events : List Event) : Prop where
  told : s'.history = s.history ++ events
  callers : ∀ m k, tally m (ofWorker (.caller k)) events + s'.left m k ≤ s.left m k
  refreshers : ∀ q id, q.worker = .refresher id → Event.hinted q ∉ events ∧
    (Event.asked q ∈ events →
      s.stages (.refresher id) ≠ .stopped ∧ s.table.name? id = some q.name)

theorem Calls.silent (told : s'.history = s.history) (left : ∀ m k, s'.left m k ≤ s.left m k) :
    s.Calls s' [] where
  told := told.trans (List.append_nil _).symm
  callers m k := by
    have hk := left m k
    simpa [tally] using hk
  refreshers q id _ := ⟨List.not_mem_nil, fun hmem => absurd hmem List.not_mem_nil⟩

/-- Once the flag is set nobody gets calls that it had not left before. -/
theorem Step.calls (h : s.Step plan s') (hcells : s.Cells) (flag : s.table.destroyed = true) :
    ∃ events, s.Calls s' events := by
  cases h with
  | @traffic action t allowed step =>
    refine ⟨[], .silent rfl fun m k => ?_⟩
    have hpassed := (Traffic.passed_of_moves (k := k) (Traffic.moves_of_step step) flag).2
    cases hk : t.subscribers k with
    | subscribed id =>
      rw [left_of_subscribed (hpassed id hk)]
      exact Nat.le_of_eq (left_of_subscribed hk)
    | _ =>
      unfold left
      rw [hk]
      exact Nat.zero_le _
  | @turn w stage events t turn =>
    refine ⟨events, rfl, fun m k => ?_, fun q id who => turn.asked_by_refresher who⟩
    by_cases hw : .caller k = w
    · obtain ⟨id, got⟩ := turn.subscribed hw.symm hcells
      have hafter : (s.turned w stage events t).traffic.subscribers k = .subscribed id := got
      rw [left_of_subscribed hafter, left_of_subscribed got, hw, stages_turned_self]
      exact turn.left_le hw.symm
    · refine Nat.le_of_eq ?_
      rw [turn.tally_of_ne hw, Nat.zero_add, left, subscribers_turned, stages_turned, if_neg hw]
      rfl
  | _ => exact ⟨[], .silent rfl fun m k => Nat.le_refl _⟩

theorem Step.admitted {name : String} (h : s.Step plan s') (flag : s.table.destroyed = true)
    (hk : s'.traffic.subscribers k = .admitted name) :
    s.traffic.subscribers k = .admitted name := by
  rcases h.traffic_cases with ⟨_, hmoves, -⟩ | ⟨t, ht, -⟩
  · exact (Traffic.passed_of_moves hmoves flag).1 name hk
  · rw [ht] at hk
    exact hk

theorem Step.name?_cases {name : String} (h : s.Step plan s')
    (hid : s'.table.name? id = some name) :
    s.table.name? id = some name ∨ ∃ k, s.traffic.subscribers k = .admitted name := by
  rcases h.traffic_cases with ⟨_, hmoves, -, hchore, -⟩ | ⟨t, ht, -, -, hsame, -⟩
  · exact Traffic.name?_of_moves hmoves hchore hid
  · rw [table, ht] at hid
    exact .inl ((hsame id).symm.trans hid)

/-! ## After a destroy -/

/-- A question of a refresher that is on its way, or that a subscribe starts which was past its
first look at the flag. -/
def Lingers (s : Activity) (id : SubscriptionId) (name : String) : Prop :=
  s.stages (.refresher id) ≠ .stopped ∧
    (s.table.name? id = some name ∨ ∃ k, s.traffic.subscribers k = .admitted name)

/-- What has become of a destroyed locator. -/
structure Aftermath (s later : Activity) : Prop where
  flag : later.table.destroyed = true
  admitted : ∀ k name, later.traffic.subscribers k = .admitted name →
    s.traffic.subscribers k = .admitted name
  stopped : ∀ id, s.stages (.refresher id) = .stopped → later.stages (.refresher id) = .stopped
  names : ∀ id name, later.table.name? id = some name →
    s.table.name? id = some name ∨ ∃ k, s.traffic.subscribers k = .admitted name
  calls : ∃ more, later.history = s.history ++ more ∧
    (∀ m k, tally m (ofWorker (.caller k)) more + later.left m k ≤ s.left m k) ∧
    ∀ q id, q.worker = .refresher id →
      Event.hinted q ∉ more ∧ (Event.asked q ∈ more → s.Lingers id q.name)

theorem Aftermath.refl (flag : s.table.destroyed = true) : s.Aftermath s where
  flag := flag
  admitted _ _ hk := hk
  stopped _ hid := hid
  names _ _ hid := .inl hid
  calls := by
    refine ⟨[], (List.append_nil _).symm, fun m k => ?_, fun q id _ => ⟨nofun, nofun⟩⟩
    simp [tally]

theorem Aftermath.step (h : s.Aftermath s') (hcells : s'.Cells) (step : s'.Step plan later) :
    s.Aftermath later := by
  obtain ⟨more, hmore, hcallers, hrefreshers⟩ := h.calls
  obtain ⟨events, hcalls⟩ := step.calls hcells h.flag
  refine ⟨step.destroyed h.flag, fun k name hk => h.admitted k name (step.admitted h.flag hk),
    fun id hid => step.stopped (h.stopped id hid), fun id name hid => ?_,
    more ++ events, ?_, fun m k => ?_, fun q id who => ⟨fun hmem => ?_, fun hmem => ?_⟩⟩
  · rcases step.name?_cases hid with hbefore | ⟨k, hk⟩
    · exact h.names id name hbefore
    · exact .inr ⟨k, h.admitted k name hk⟩
  · rw [hcalls.told, hmore, List.append_assoc]
  · have hbefore := hcallers m k
    have hnow := hcalls.callers m k
    rw [tally_append]
    omega
  · rcases List.mem_append.mp hmem with hbefore | hnow
    · exact (hrefreshers q id who).1 hbefore
    · exact (hcalls.refreshers q id who).1 hnow
  · rcases List.mem_append.mp hmem with hbefore | hnow
    · exact (hrefreshers q id who).2 hbefore
    · -- A refresher that asks now had not stopped back then either.
      obtain ⟨hrunning, hname⟩ := (hcalls.refreshers q id who).2 hnow
      exact ⟨fun hstopped => hrunning (h.stopped id hstopped), h.names id q.name hname⟩

theorem Reachable.aftermath (h : s.Reachable plan) (flag : s.table.destroyed = true)
    (runs : Runs plan s later) : s.Aftermath later := by
  induction runs with
  | refl => exact .refl flag
  | tail before step ih => exact ih.step (Reachable.cells (h.trans before)) step

/-- The first caller is past the flag, and the refresher is due, when the locator is destroyed. -/
def gone : Activity :=
  let swept := { delayed with
    traffic := (delayed.traffic.run [.destroy 0, .sweep 0 "greeter", .finish 0]).getD .start }
  let releasing := { swept with releases := Function.update swept.releases 0 .releasing }
  { releasing with releases := Function.update releasing.releases 0 .done }

theorem gone_destroyed : gone.Destroyed :=
  ⟨0, rfl⟩

theorem gone_reachable : gone.Reachable greetings := by
  let swept := { delayed with
    traffic := (delayed.traffic.run [.destroy 0, .sweep 0 "greeter", .finish 0]).getD .start }
  have hrun : delayed.traffic.run [.destroy 0, .sweep 0 "greeter", .finish 0] =
      some swept.traffic := rfl
  have hswept : swept.Reachable greetings :=
    delayed_reachable.trans (Runs.of_traffic hrun (by simp [Plan.Allows]))
  exact (hswept.tail (.release rfl rfl)).tail (.released rfl)

/-- The first caller enters the load of its subscription all the same, and asks. -/
theorem gone_asks : ∃ s, Runs greetings gone s ∧ s.history = gone.history ++
    [.hinted (greetings.query 0 0), .taken (greetings.query 0 0) (.ok ()),
      .asked (greetings.query 0 0)] := by
  let entered := gone.turned (.caller 0) .entered [] (gone.table.setLoad 0 .running)
  have hold : gone.table.get? 0 =
      some { name := "greeter", closed := true, refresher := .due 30000 } := rfl
  have hentered : Runs greetings gone entered := .single (.turn (.enter rfl rfl hold rfl))
  have hasked : Runs greetings entered (entered.turned (.caller 0) (.listing 2)
      [.hinted (greetings.query 0 0), .taken (greetings.query 0 0) (.ok ()),
        .asked (greetings.query 0 0)] entered.table) := ask_entered rfl (.ok ()) rfl
  exact ⟨_, hentered.trans hasked, rfl⟩

/-- After the destroy has returned, the caller loads its subscription, or the refresher ticks. -/
theorem destroyed_locator_still_asks :
    gone.Reachable greetings ∧ gone.Destroyed ∧
      (∃ s, Runs greetings gone s ∧ s.history = gone.history ++
        [.hinted (greetings.query 0 0), .taken (greetings.query 0 0) (.ok ()),
          .asked (greetings.query 0 0)]) ∧
      ∃ s, Runs greetings gone s ∧ s.history = gone.history ++
        [.asked ⟨.refresher 0, 0, "greeter"⟩] := by
  have hold : gone.table.get? 0 =
      some { name := "greeter", closed := true, refresher := .due 30000 } := rfl
  have hasks : gone.Asks greetings ⟨.refresher 0, 0, "greeter"⟩ := .of_get? hold rfl
  have hdue : 30000 ≤ gone.now := Nat.le_add_left 30000 0
  exact ⟨gone_reachable, gone_destroyed, gone_asks,
    _, .single (.turn (.tick hasks rfl rfl hold rfl hdue)), rfl⟩

/-- **Of a destroyed locator only what was begun goes on.** Once a destroy has returned that stopped
the refreshers, whatever happens from then on: a caller starts at most one hint and one listing
more, and none unless it was past the flag by then with its load before it. Refreshers give no
hints; one that lists had not stopped by then, or it was started by a subscribe that had found
the locator alive. When nobody cleans up any more, every refresher has been told to stop. -/
theorem destroyed_asks_only_what_was_begun (h : s.Reachable plan) (destroyed : s.Destroyed)
    (runs : Runs plan s later) :
    (∃ more, later.history = s.history ++ more ∧
      (∀ m k, tally m (ofWorker (.caller k)) more ≤ s.left m k ∧ s.left m k ≤ 1) ∧
      ∀ q id, q.worker = .refresher id →
        Event.hinted q ∉ more ∧ (Event.asked q ∈ more →
          s.stages (.refresher id) ≠ .stopped ∧
            (s.table.name? id = some q.name ∨
              ∃ k, s.traffic.subscribers k = .admitted q.name))) ∧
    (later.traffic.Settled →
      later.table.services = ∅ ∧ ∀ sub ∈ later.table.all, sub.closed = true) := by
  have hclosing := h.sound.closing_of_swept (h.swept destroyed)
  obtain ⟨more, hmore, hcallers, hrefreshers⟩ := (h.aftermath hclosing.flag runs).calls
  refine ⟨⟨more, hmore, fun m k => ⟨?_, left_le_one⟩, hrefreshers⟩, fun settled => ?_⟩
  · have hk := hcallers m k
    omega
  · have hlater : later.Reachable plan := h.trans runs
    have hswept := hlater.swept (runs.destroyed destroyed)
    exact (hlater.sound.closing_of_swept hswept).quiet hswept settled

/-- The caller that loads after the destroy has used up what it had left. -/
theorem gone_asks_once :
    ∃ later more, gone.Reachable greetings ∧ gone.Destroyed ∧ Runs greetings gone later ∧
      later.history = gone.history ++ more ∧
      tally .hint (ofWorker (.caller 0)) more = 1 ∧ tally .list (ofWorker (.caller 0)) more = 1 ∧
      ∀ m k, tally m (ofWorker (.caller k)) more ≤ 1 := by
  obtain ⟨later, hruns, hhistory⟩ := gone_asks
  obtain ⟨⟨more, hmore, hcallers, -⟩, -⟩ :=
    destroyed_asks_only_what_was_begun gone_reachable gone_destroyed hruns
  rw [hhistory] at hmore
  obtain rfl := List.append_cancel_left hmore
  exact ⟨later, _, gone_reachable, gone_destroyed, hruns, hhistory, rfl, rfl,
    fun m k => Nat.le_trans (hcallers m k).1 (hcallers m k).2⟩

end Activity

end RemoteCall
