/-
The first load of a subscription happens once, and nobody gets past it.

The history has of the hint, the listing and the result of a load as many as the stage of
the caller that loads says: none before, one afterwards (`Tallied`). A caller that is
dropped in the middle leaves marks behind and the next one leaves them again; but no caller
is dropped between a result and the end of its load, so of results there is one in any case.

* `Activity.first_load_is_once_only` — without drops and destroys, one refresher, one hint
  and one first listing for each name, and nobody gets past a load that is on its way.
-/
import Mathlib.Data.List.Nodup
import RemoteCall.Proofs.Locator.Loads

namespace RemoteCall

namespace Subscriptions

variable {t : Subscriptions} {id : SubscriptionId}

/-- The names of all subscriptions ever made. With each of them a refresher was started. -/
def names (t : Subscriptions) : List String := t.all.toList.map (·.name)

theorem getElem?_names : t.names[id]? = t.name? id := by
  simp [names, name?, profile?, get?, Subscription.profile, Function.comp_def]

end Subscriptions

namespace Activity

open Subscriptions

variable {plan : Plan} {s s' : Activity} {w : Worker} {stage : Stage} {events : List Event}
  {t : Subscriptions} {k : Nat} {id : SubscriptionId} {m : Mark}

/-! ## Drops -/

/-- A caller that was dropped does nothing more, and callers do not stop otherwise. -/
theorem Turn.stages_of_caller (h : s.Turn plan w stage events t) (who : w = .caller k) :
    s.stages w ≠ .cancelled ∧ stage ≠ .stopped := by
  subst who
  cases h with
  | arrive _ idle | enter _ idle | leave _ idle => rw [idle]; exact ⟨nofun, nofun⟩
  | hint _ _ entered => rw [entered]; exact ⟨nofun, nofun⟩
  | accept _ _ hinting => rw [hinting]; exact ⟨nofun, nofun⟩
  | ask _ _ hinted => rw [hinted]; exact ⟨nofun, nofun⟩
  | answer listing => rw [listing]; exact ⟨nofun, nofun⟩
  | take _ _ answered => rw [answered]; exact ⟨nofun, nofun⟩
  | complete _ loaded => rw [loaded]; exact ⟨nofun, nofun⟩
  | look _ returned => rw [returned]; exact ⟨nofun, nofun⟩
  | pick _ choosing => rw [choosing]; exact ⟨nofun, nofun⟩
  | abandon _ awaits =>
    refine ⟨fun hdropped => ?_, nofun⟩
    rw [hdropped] at awaits
    cases awaits

theorem Step.cancelled (h : s.Step plan s') (hk : s.stages (.caller k) = .cancelled) :
    s'.stages (.caller k) = .cancelled := by
  cases h with
  | @turn w stage events t turn =>
    rw [stages_turned, if_neg fun heq => ?_]
    · exact hk
    · exact (turn.stages_of_caller heq.symm).1 (heq ▸ hk)
  | _ => exact hk

theorem Reachable.caller_ne_stopped (h : s.Reachable plan) (k : Nat) :
    s.stages (.caller k) ≠ .stopped := by
  induction h with
  | refl => exact nofun
  | tail _ step ih =>
    cases step with
    | turn turn =>
      rw [stages_turned]
      split
      · next heq => exact (turn.stages_of_caller heq.symm).2
      · exact ih
    | _ => exact ih

/-! ## Marks in the history -/

/-- Of each load the history has as many marks as there must be by now. -/
structure Tallied (m : Mark) (s : Activity) : Prop where
  fresh : ∀ id, s.table.load? id ≠ some .running → s.table.load? id ≠ some .done →
    tally m (ofId id) s.history = 0
  going : ∀ k id, s.Loading k id →
    tally m (ofId id) s.history = (s.stages (.caller k)).tally m
  done : ∀ id, s.table.load? id = some .done → tally m (ofId id) s.history = 1

theorem start_tallied : start.Tallied m where
  fresh id _ _ := rfl
  going k id h := nomatch h.1
  done id h := by simp [start, Traffic.start, load?, profile?, get?] at h

theorem Tallied.traffic (h : s.Tallied m) (hcells : s.Cells) {action : Traffic.Action}
    {next : Traffic} (moves : s.traffic.Moves action next)
    (hchore : ∀ chore, action ≠ .chore chore) : Tallied m { s with traffic := next } := by
  have hload := load?_of_moves moves hchore
  refine ⟨fun id hrunning hdone => ?_, fun k id hl => ?_, fun id hid => ?_⟩
  · exact h.fresh id (fun heq => hrunning ((hload id _).1 heq)) fun heq =>
      hdone ((hload id _).1 heq)
  · exact h.going k id (hcells.loading_of_moves moves hl)
  · exact h.done id ((hload id _).2 hid nofun)

/-- A load that begins or ends here, with nothing to tell: then all others go on, and what is
to be seen to is the subscription itself. -/
theorem Tallied.setLoad (h : s.Tallied m) {load : LoadState}
    (got : s.traffic.subscribers k = .subscribed id)
    (going : stage.loads = true → tally m (ofId id) s.history = stage.tally m)
    (done : load = .done → tally m (ofId id) s.history = 1)
    (fresh : load = .pending → tally m (ofId id) s.history = 0)
    (found : (s.table.load? id).isSome = true) :
    (s.turned (.caller k) stage [] (s.table.setLoad id load)).Tallied m := by
  obtain ⟨before, hbefore⟩ := Option.isSome_iff_exists.mp found
  have hself : (s.table.setLoad id load).load? id = some load := load?_setLoad_self hbefore
  have hhistory : (s.turned (.caller k) stage [] (s.table.setLoad id load)).history = s.history :=
    List.append_nil _
  refine ⟨fun id' hrunning hdone => ?_, fun k' id' hl => ?_, fun id' hid' => ?_⟩
  · rw [hhistory]
    rw [table_turned] at hrunning hdone
    by_cases hid : id = id'
    · subst hid
      rw [hself] at hrunning hdone
      cases load with
      | pending => exact fresh rfl
      | running => exact absurd rfl hrunning
      | done => exact absurd rfl hdone
    · rw [load?_setLoad_ne hid] at hrunning hdone
      exact h.fresh id' hrunning hdone
  · rw [hhistory]
    by_cases hk : k = k'
    · subst hk
      obtain ⟨hgot, hloads⟩ := loading_turned_self.mp hl
      obtain rfl := Cells.got_unique got hgot
      rw [stages_turned_self]
      exact going hloads
    · rw [stages_turned_caller hk]
      exact h.going k' id' ((loading_turned_caller hk).mp hl)
  · rw [hhistory]
    rw [table_turned] at hid'
    by_cases hid : id = id'
    · subst hid
      rw [hself] at hid'
      exact done (Option.some.inj hid')
    · rw [load?_setLoad_ne hid] at hid'
      exact h.done id' hid'

/-- A turn that has nothing to do with loads. -/
theorem Tallied.aside (h : s.Tallied m) (load : ∀ id, t.load? id = s.table.load? id)
    (unmarked : ∀ m counts, tally m counts events = 0)
    (stops : ∀ k, w = .caller k → stage.loads = false) :
    (s.turned w stage events t).Tallied m := by
  have hsame : ∀ id, tally m (ofId id) (s.turned w stage events t).history =
      tally m (ofId id) s.history := by
    intro id
    rw [history_turned, tally_append, unmarked, Nat.add_zero]
  refine ⟨fun id hrunning hdone => ?_, fun k id hl => ?_, fun id hid => ?_⟩
  · rw [table_turned, load] at hrunning hdone
    exact (hsame id).trans (h.fresh id hrunning hdone)
  · by_cases hw : w = .caller k
    · subst hw
      have hloads := (loading_turned_self.mp hl).2
      rw [stops k rfl] at hloads
      cases hloads
    · rw [hsame, stages_turned, if_neg fun heq => hw heq.symm]
      exact h.going k id ((loading_turned_of_ne hw).mp hl)
  · rw [table_turned, load] at hid
    exact (hsame id).trans (h.done id hid)

/-- A caller gets on with its load. What it leaves in the history its stage accounts for, and of
other subscriptions there is nothing new. -/
theorem Tallied.work (h : s.Tallied m) (hcells : s.Cells) (loading : s.Loading k id)
    (load : ∀ id, t.load? id = s.table.load? id)
    (marked : (s.stages (.caller k)).tally m + tally m (ofId id) events = stage.tally m)
    (unmarked : ∀ id', id' ≠ id → tally m (ofId id') events = 0) :
    (s.turned (.caller k) stage events t).Tallied m := by
  have hrunning := hcells.running k id loading
  have hothers : ∀ id', id' ≠ id → tally m (ofId id')
      (s.turned (.caller k) stage events t).history = tally m (ofId id') s.history := by
    intro id' hne
    rw [history_turned, tally_append, unmarked id' hne, Nat.add_zero]
  have hne : ∀ id', s.table.load? id' ≠ some .running → id' ≠ id := by
    rintro id' hnot rfl
    exact hnot hrunning
  refine ⟨fun id' hnot hdone => ?_, fun k' id' hl => ?_, fun id' hid' => ?_⟩
  · rw [table_turned, load] at hnot hdone
    exact (hothers id' (hne id' hnot)).trans (h.fresh id' hnot hdone)
  · by_cases hk : k = k'
    · subst hk
      obtain rfl := Cells.got_unique loading.1 (loading_turned_self.mp hl).1
      rw [history_turned, tally_append, stages_turned_self, h.going k id loading]
      exact marked
    · have hold := (loading_turned_caller hk).mp hl
      rw [hothers id' fun heq => ?_, stages_turned_caller hk]
      · exact h.going k' id' hold
      · exact hk (hcells.sole k k' id loading (heq ▸ hold))
  · rw [table_turned, load] at hid'
    refine (hothers id' (hne id' ?_)).trans (h.done id' hid')
    rw [hid']
    nofun

/-- A caller that is dropped leaves marks of a load that is over without being done; but no
result, for then it does not wait any more. -/
theorem Tallied.turn (h : s.Tallied m) (hcells : s.Cells) (turn : s.Turn plan w stage events t)
    (stays : m = .result ∨ ∀ k, w = .caller k → stage ≠ .cancelled) :
    (s.turned w stage events t).Tallied m := by
  cases turn.bearing hcells with
  | aside load unmarked caller => exact h.aside load unmarked fun k hk => (caller k hk).1
  | work who loading load _ marked unmarked =>
    subst who
    exact h.work hcells loading load (marked m) (unmarked m)
  | @enter k id who got idle pending entered events load =>
    subst who entered events load
    refine h.setLoad got (fun _ => ?_) nofun nofun (by rw [pending]; rfl)
    exact h.fresh id (by rw [pending]; nofun) (by rw [pending]; nofun)
  | @complete k id who got loaded returned events load =>
    subst who returned events load
    have hl : s.Loading k id := ⟨got, by rw [loaded]; rfl⟩
    refine h.setLoad got nofun (fun _ => ?_) nofun (by rw [hcells.running k id hl]; rfl)
    rw [h.going k id hl, loaded]
    rfl
  | @abandon k id who got awaits cancelled events load =>
    subst who cancelled events load
    obtain rfl : m = .result := stays.resolve_right fun hstay => hstay k rfl rfl
    have hl : s.Loading k id := ⟨got, Stage.loads_of_awaits awaits⟩
    refine h.setLoad got nofun nofun (fun _ => ?_) (by rw [hcells.running k id hl]; rfl)
    rw [h.going k id hl]
    exact Stage.tally_result_of_awaits awaits

theorem Stage.tally_le_one : stage.tally m ≤ 1 := by
  unfold Stage.tally
  split <;> first | omega | (split <;> omega)

theorem Tallied.le_one (h : s.Tallied m) (hcells : s.Cells) (id : SubscriptionId) :
    tally m (ofId id) s.history ≤ 1 := by
  by_cases hrunning : s.table.load? id = some .running
  · obtain ⟨k, hl⟩ := hcells.loader id hrunning
    rw [h.going k id hl]
    exact Stage.tally_le_one
  · by_cases hdone : s.table.load? id = some .done
    · exact Nat.le_of_eq (h.done id hdone)
    · rw [h.fresh id hrunning hdone]
      exact Nat.zero_le 1

theorem Reachable.tallied (h : s.Reachable plan)
    (stays : m = .result ∨ ∀ k, s.stages (.caller k) ≠ .cancelled) : s.Tallied m := by
  induction h with
  | refl => exact start_tallied
  | @tail s s' before step ih =>
    have hbefore := ih (stays.imp_right fun hstay k hk => hstay k (step.cancelled hk))
    have hcells := Reachable.cells before
    cases step with
    | @traffic action t allowed step =>
      refine hbefore.traffic hcells (Traffic.moves_of_step step) ?_
      rintro chore rfl
      exact allowed
    | @turn w stage events t turn =>
      refine hbefore.turn hcells turn (stays.imp_right fun hstay k who hdropped => hstay k ?_)
      rw [← who, stages_turned_self, hdropped]
    | _ => exact ⟨hbefore.fresh, hbefore.going, hbefore.done⟩

/-! ## One of a name -/

/-- Marks are the same for questions that are counted alike. -/
theorem tally_congr {counts counts' : Query → Bool} {history : List Event}
    (h : ∀ e ∈ history, ∀ q, e.query? = some q → counts q = counts' q) :
    tally m counts history = tally m counts' history := by
  refine List.countP_congr fun e he => ?_
  cases e with
  | hinted q | asked q | listed q => simp only [Event.isMark, h _ he q rfl]
  | _ => rfl

/-- Until the locator is destroyed, what was asked under a name was asked for its subscription. -/
theorem Named.tally_ofName (h : s.Named) (hplaced : s.Placed plan)
    (alive : s.table.destroyed = false) {name : String} (hid : s.table.name? id = some name) :
    tally m (ofName name) s.history = tally m (ofId id) s.history := by
  refine tally_congr fun e he q hq => ?_
  have hname := h e he q hq
  by_cases hq' : q.id = id
  · rw [hq', hid] at hname
    simp [ofName, ofId, hq', (Option.some.inj hname).symm]
  · have hne : q.name ≠ name := by
      rintro rfl
      exact hq' (hplaced.id_eq alive hname hid)
    simp [ofName, ofId, hq', hne]

/-- Nothing was asked under a name that has no subscription. -/
theorem Named.tally_eq_zero (h : s.Named) {name : String}
    (none : ∀ id, s.table.name? id ≠ some name) : tally m (ofName name) s.history = 0 := by
  refine List.countP_eq_zero.mpr fun e he => ?_
  have hne : ∀ q, e.query? = some q → q.name ≠ name := by
    rintro q hq rfl
    exact none q.id (h e he q hq)
  cases e with
  | hinted q | asked q | listed q => simp [Event.isMark, ofName, hne q rfl]
  | _ => simp [Event.isMark]

/-- Until the locator is destroyed no two subscriptions have the same name. -/
theorem Placed.nodup_names (h : s.Placed plan) (alive : s.table.destroyed = false) :
    s.table.names.Nodup := by
  refine List.nodup_iff_getElem?_ne_getElem?.mpr fun id id' hlt hlength heq => ?_
  obtain ⟨name, hid'⟩ : ∃ name, s.table.names[id']? = some name :=
    ⟨_, List.getElem?_eq_getElem hlength⟩
  have hsame : id = id' := by
    have hname' : s.table.name? id' = some name := by rw [← getElem?_names, hid']
    have hname : s.table.name? id = some name := by rw [← getElem?_names, heq, hid']
    exact h.id_eq alive hname hname'
  omega

theorem Reachable.returned_named (h : s.Reachable plan)
    (returned : (s.stages (.caller k)).isReturned = true) :
    ∃ id, s.traffic.subscribers k = .subscribed id ∧
      s.table.name? id = some (plan.goals k).name := by
  obtain ⟨id, hgot⟩ := h.cells.got k fun idle => by rw [idle] at returned; cases returned
  have hserves := h.placed.serves k
  rw [hgot] at hserves
  exact ⟨id, hgot, hserves⟩

/-- The load of a name is over once somebody's subscribe has returned. -/
theorem Reachable.loaded_once (h : s.Reachable plan) (alive : s.table.destroyed = false)
    (stays : m = .result ∨ ∀ k, s.stages (.caller k) ≠ .cancelled)
    (returned : (s.stages (.caller k)).isReturned = true) :
    tally m (ofName (plan.goals k).name) s.history = 1 := by
  obtain ⟨id, hgot, hname⟩ := h.returned_named returned
  rw [h.named.tally_ofName h.placed alive hname]
  exact (h.tallied stays).done id (h.cells.done k id hgot returned)

/-- Whenever a caller looks for instances, the result of the load is there. -/
theorem Reachable.looked_loaded (h : s.Reachable plan) (alive : s.table.destroyed = false)
    {n : Nat} {candidates : List ServiceInstance}
    (looked : s.history[n]? = some (.looked k candidates)) :
    tally .result (ofName (plan.goals k).name) (s.history.take n) = 1 := by
  induction h with
  | refl => simp [start] at looked
  | @tail s s' before step ih =>
    have halive := step.alive alive
    cases step with
    | @turn w stage events t turn =>
      rw [history_turned, List.getElem?_append] at looked
      rw [history_turned]
      split at looked
      · next hlt =>
        rw [List.take_append_of_le_length (Nat.le_of_lt hlt)]
        exact ih halive looked
      · cases turn with
        | look goal returned =>
          have hn : n = s.history.length := by
            have hlt := (List.getElem?_eq_some_iff.mp looked).1
            simp only [List.length_singleton] at hlt
            omega
          subst hn
          rw [Nat.sub_self, List.getElem?_cons_zero] at looked
          cases looked
          rw [List.take_left]
          exact loaded_once before halive (.inl rfl) (by rw [returned]; rfl)
        | hint | accept | ask | take | tick =>
          obtain ⟨hlt, hevent⟩ := List.getElem?_eq_some_iff.mp looked
          simp at hevent
        | _ => cases looked
    | _ => exact ih halive looked

/-! ## Everyone returns -/

/-- Until the locator is destroyed nobody is refused. -/
theorem Reachable.ne_refused (h : s.Reachable plan) (alive : s.table.destroyed = false) (k : Nat) :
    s.traffic.subscribers k ≠ .refused := by
  induction h with
  | refl => exact nofun
  | @tail s s' before step ih =>
    have halive := step.alive alive
    have hopen := (Reachable.sound before).open_of_alive halive
    cases step with
    | traffic allowed step =>
      cases Traffic.moves_of_step step with
      | begin =>
        rw [Traffic.subscribers_setSubscriber]
        split
        · nofun
        · exact ih halive
      | @advance k' table now next =>
        rw [Traffic.subscribers_setSubscriber]
        split
        · have proceeds := Subscriber.proceeds_of_next next
          generalize hk' : s.traffic.subscribers k' = before at proceeds
          cases proceeds with
          | refuse flag =>
            rw [halive] at flag
            cases flag
          | @notify id =>
            obtain ⟨_, hholding, -⟩ := hopen.held k' id (by rw [hk']; rfl)
            rw [hk'] at hholding
            cases hholding
          | _ => nofun
        · exact ih halive
      | _ => exact ih halive
    | _ => exact ih halive

section Subscribing

variable {name : String}

theorem Step.advance {table : Subscriptions} {now : Subscriber}
    (next : (s.traffic.subscribers k).next s.table = some (table, now)) :
    s.Step plan { s with traffic := { s.traffic with table := table }.setSubscriber k now } := by
  have allowed : plan.Allows (.advance k) := trivial
  refine .traffic allowed ?_
  rw [Traffic.step, next]
  rfl

/-- A run of one caller that ends with its subscription. -/
def Subscribes (plan : Plan) (s : Activity) (k : Nat) : Prop :=
  ∃ t id, Runs plan s { s with traffic := t } ∧ t.table.destroyed = false ∧
    t.subscribers k = .subscribed id

theorem Subscribes.head {t : Traffic} (h : Subscribes plan { s with traffic := t } k)
    (step : s.Step plan { s with traffic := t }) : Subscribes plan s k := by
  obtain ⟨t', id, hruns, hrest⟩ := h
  exact ⟨t', id, hruns.head step, hrest⟩

theorem subscribes_holding (alive : s.table.destroyed = false)
    (hk : s.traffic.subscribers k = .holding name id) : Subscribes plan s k := by
  have next : (s.traffic.subscribers k).next s.table = some (s.table, .subscribed id) := by
    simp [hk, Subscriber.next, alive]
  exact ⟨_, id, .single (.advance next), alive, by simp⟩

theorem subscribes_admitted (alive : s.table.destroyed = false)
    (hk : s.traffic.subscribers k = .admitted name) : Subscribes plan s k := by
  refine Subscribes.head ?_ (.advance (by rw [hk]; rfl))
  have alive' : (s.table.insertIfAbsent name).2.destroyed = false :=
    (destroyed_insertIfAbsent s.table name).trans alive
  exact subscribes_holding alive' (Function.update_self ..)

theorem subscribes_begun (alive : s.table.destroyed = false)
    (hk : s.traffic.subscribers k = .begun name) : Subscribes plan s k := by
  have next : (s.traffic.subscribers k).next s.table = some (s.table, .admitted name) := by
    simp [hk, Subscriber.next, alive]
  refine Subscribes.head ?_ (.advance next)
  exact subscribes_admitted alive (Function.update_self ..)

/-- Until the locator is destroyed every caller gets its subscription. -/
theorem Reachable.subscribes (h : s.Reachable plan) (alive : s.table.destroyed = false) (k : Nat) :
    Subscribes plan s k := by
  have hopen := h.sound.open_of_alive alive
  cases hk : s.traffic.subscribers k with
  | idle =>
    obtain ⟨t, hruns, htable, hgot⟩ := get_subscription plan hk alive
    refine ⟨t, _, hruns, ?_, hgot⟩
    rw [htable, destroyed_insertIfAbsent]
    exact alive
  | begun name => exact subscribes_begun alive hk
  | admitted name => exact subscribes_admitted alive hk
  | holding name id => exact subscribes_holding alive hk
  | withdrawing name id | unlisted id =>
    obtain ⟨_, hholding, -⟩ := hopen.held k id (by rw [hk]; rfl)
    rw [hk] at hholding
    cases hholding
  | refused => exact absurd hk (h.ne_refused alive k)
  | subscribed id => exact ⟨s.traffic, id, .refl, alive, hk⟩

end Subscribing

/-- A caller that loads comes to the end of that if the registry answers. -/
theorem Loading.finishes (h : s.Loading k id) (found : (s.table.load? id).isSome = true) :
    ∃ more t, Runs plan s (s.turned (.caller k) .returned more t) ∧
      t.destroyed = s.table.destroyed ∧ t.load? id = some .done := by
  obtain ⟨got, loads⟩ := h
  obtain ⟨before, hbefore⟩ := Option.isSome_iff_exists.mp found
  have hreceive : ∀ answer, (s.table.receive id answer).destroyed = s.table.destroyed ∧
      ((s.table.receive id answer).setLoad id .done).load? id = some .done := by
    intro answer
    constructor
    · cases answer <;> rfl
    · exact load?_setLoad_self (load?_receive.trans hbefore)
  cases hk : s.stages (.caller k) with
  | entered => exact ⟨_, _, finish_entered got (.ok []) (.ok ()) hk, hreceive _⟩
  | hinting => exact ⟨_, _, finish_asked got (.ok []) (ask_hinting got (.ok ()) hk), hreceive _⟩
  | hinted => exact ⟨_, _, finish_asked got (.ok []) (ask_hinted got hk), hreceive _⟩
  | listing since => exact ⟨_, _, finish_listing got (.ok []) hk, hreceive _⟩
  | answered since answer => exact ⟨_, _, finish_answered got answer hk, hreceive _⟩
  | loaded => exact ⟨_, _, finish_loaded got hk, rfl, load?_setLoad_self hbefore⟩
  | _ =>
    rw [hk] at loads
    cases loads

/-- The locator was not destroyed, and no caller was dropped. -/
structure Undisturbed (s : Activity) : Prop where
  alive : s.table.destroyed = false
  staying : ∀ k, s.stages (.caller k) ≠ .cancelled

theorem Undisturbed.turned (h : s.Undisturbed) (flag : t.destroyed = s.table.destroyed)
    (stays : stage ≠ .cancelled) : (s.turned w stage events t).Undisturbed := by
  refine ⟨flag.trans h.alive, fun k => ?_⟩
  rw [stages_turned]
  split
  · exact stays
  · exact h.staying k

/-- A run, without drops or destroys, at the end of which the subscribe of a caller has
returned. -/
def Returns (plan : Plan) (s : Activity) (k : Nat) : Prop :=
  ∃ later, Runs plan s later ∧ later.Undisturbed ∧
    (later.stages (.caller k)).isReturned = true

theorem Undisturbed.loads (h : s.Undisturbed) (hl : s.Loading k id)
    (found : (s.table.load? id).isSome = true) : Returns plan s k := by
  obtain ⟨more, t, hruns, hflag, -⟩ := hl.finishes found
  exact ⟨_, hruns, h.turned hflag nofun, by rw [stages_turned_self]; rfl⟩

theorem Undisturbed.arrives (h : s.Undisturbed)
    (got : s.traffic.subscribers k = .subscribed id) (idle : s.stages (.caller k) = .idle)
    (done : s.table.load? id = some .done) : Returns plan s k := by
  obtain ⟨sub, hget, hload⟩ := get?_of_load? done
  refine ⟨_, .single (.turn (.arrive got idle hget hload)), h.turned rfl nofun, ?_⟩
  rw [stages_turned_self]
  rfl

/-- Whoever waits for the load of someone else returns when that is over. -/
theorem Undisturbed.waits (h : s.Undisturbed) (hcells : s.Cells)
    (got : s.traffic.subscribers k = .subscribed id) (idle : s.stages (.caller k) = .idle)
    (running : s.table.load? id = some .running) : Returns plan s k := by
  obtain ⟨k', hl⟩ := hcells.loader id running
  have hne : Worker.caller k ≠ .caller k' := by
    intro heq
    have hloads := hl.2
    rw [← heq, idle] at hloads
    cases hloads
  obtain ⟨more, t, hruns, hflag, hdone⟩ := hl.finishes (by rw [running]; rfl)
  have hafter : (s.turned (.caller k') .returned more t).Undisturbed := h.turned hflag nofun
  obtain ⟨later, hrest, hlater⟩ : Returns plan (s.turned (.caller k') .returned more t) k :=
    hafter.arrives got (by rw [stages_turned, if_neg hne, idle]) hdone
  exact ⟨later, hruns.trans hrest, hlater⟩

theorem Undisturbed.enters (h : s.Undisturbed)
    (got : s.traffic.subscribers k = .subscribed id) (idle : s.stages (.caller k) = .idle)
    (pending : s.table.load? id = some .pending) : Returns plan s k := by
  obtain ⟨sub, hget, hload⟩ := get?_of_load? pending
  have hstep : s.Step plan (s.turned (.caller k) .entered [] (s.table.setLoad id .running)) :=
    .turn (.enter got idle hget hload)
  have hafter : (s.turned (.caller k) .entered [] (s.table.setLoad id .running)).Undisturbed :=
    h.turned rfl nofun
  have hrunning : (s.table.setLoad id .running).load? id = some .running :=
    load?_setLoad_self pending
  obtain ⟨later, hrest, hlater⟩ : Returns plan _ k :=
    hafter.loads (loading_turned_self.mpr ⟨got, rfl⟩) (by rw [table_turned, hrunning]; rfl)
  exact ⟨later, hrest.head hstep, hlater⟩

theorem Reachable.returns (h : s.Reachable plan) (hs : s.Undisturbed) (k : Nat) :
    Returns plan s k := by
  obtain ⟨traffic, id, hruns, halive, hgot⟩ := h.subscribes hs.alive k
  have hmiddle : Reachable plan { s with traffic := traffic } := h.trans hruns
  have hstays : Undisturbed { s with traffic := traffic } := ⟨halive, hs.staying⟩
  obtain ⟨load, hload⟩ : ∃ load, traffic.table.load? id = some load := by
    have hserves := hmiddle.placed.serves k
    change (traffic.subscribers k).Serves traffic.table (plan.goals k).name at hserves
    rw [hgot] at hserves
    obtain ⟨profile, hprofile, -⟩ := Option.map_eq_some_iff.mp hserves
    exact ⟨profile.load, by rw [load?, hprofile]; rfl⟩
  obtain ⟨later, hrest, hlater⟩ : Returns plan { s with traffic := traffic } k := by
    by_cases hloads : (s.stages (.caller k)).loads = true
    · exact hstays.loads ⟨hgot, hloads⟩ (by rw [table, hload]; rfl)
    · cases hk : s.stages (.caller k) with
      | idle =>
        cases load with
        | pending => exact hstays.enters hgot hk hload
        | running => exact hstays.waits hmiddle.cells hgot hk hload
        | done => exact hstays.arrives hgot hk hload
      | returned | choosing | located => exact ⟨_, .refl, hstays, by rw [hk]; rfl⟩
      | cancelled => exact absurd hk (hs.staying k)
      | stopped => exact absurd hk (h.caller_ne_stopped k)
      | _ =>
        rw [hk] at hloads
        exact absurd rfl hloads
  exact ⟨later, hruns.trans hrest, hlater⟩

/-- **Subscribing is once-only, and nothing is used before it is loaded.** As long as the locator
is not destroyed and no caller is dropped, whatever the order of steps: there is at most one
refresher for a name, one hint, one first listing and one result of it; and there is one of each
once the subscribe of any caller has returned. Whenever a caller looks for instances, the result
is in. Nobody is refused, everyone gets to return, and a caller that loads returns whatever the
registry says to its hint and to its question. -/
theorem first_load_is_once_only (h : s.Reachable plan) (hs : s.Undisturbed) :
    (∀ name, s.table.names.count name ≤ 1 ∧ ∀ m, tally m (ofName name) s.history ≤ 1) ∧
    (∀ k, (s.stages (.caller k)).isReturned = true →
      s.table.names.count (plan.goals k).name = 1 ∧
        ∀ m, tally m (ofName (plan.goals k).name) s.history = 1) ∧
    (∀ n k candidates, s.history[n]? = some (.looked k candidates) →
      tally .result (ofName (plan.goals k).name) (s.history.take n) = 1) ∧
    (∀ k, s.traffic.subscribers k ≠ .refused ∧ Returns plan s k) ∧
    ∀ k id outcome answer, s.traffic.subscribers k = .subscribed id →
      s.stages (.caller k) = .entered →
        Runs plan s (s.turned (.caller k) .returned
          [.hinted (plan.query k id), .taken (plan.query k id) outcome, .asked (plan.query k id),
            .listed (plan.query k id) (s.history.length + 2) answer]
          ((s.table.receive id answer).setLoad id .done)) := by
  have hnodup := h.placed.nodup_names hs.alive
  have htallied : ∀ m, s.Tallied m := fun m => h.tallied (.inr hs.staying)
  refine ⟨fun name => ⟨List.nodup_iff_count_le_one.mp hnodup name, fun m => ?_⟩,
    fun k returned => ⟨?_, fun m => h.loaded_once hs.alive (.inr hs.staying) returned⟩,
    fun n k candidates looked => h.looked_loaded hs.alive looked,
    fun k => ⟨h.ne_refused hs.alive k, h.returns hs k⟩,
    fun k id outcome answer got entered => finish_entered got answer outcome entered⟩
  · by_cases hname : ∃ id, s.table.name? id = some name
    · obtain ⟨id, hid⟩ := hname
      rw [h.named.tally_ofName h.placed hs.alive hid]
      exact (htallied m).le_one h.cells id
    · have hnone : ∀ id, s.table.name? id ≠ some name := fun id hid => hname ⟨id, hid⟩
      rw [h.named.tally_eq_zero hnone]
      exact Nat.zero_le 1
  · obtain ⟨id, -, hid⟩ := h.returned_named returned
    refine List.count_eq_one_of_mem hnodup (List.mem_of_getElem? (i := id) ?_)
    rw [getElem?_names, hid]

/-- The registry fails, and the first caller to subscribe has returned all the same. The second
one has looked. -/
theorem greeting_is_loaded_once :
    ∃ s, s.Reachable greetings ∧ s.Undisturbed ∧
      s.history = [.hinted (greetings.query 0 0), .taken (greetings.query 0 0) (.error "down"),
        .asked (greetings.query 0 0), .listed (greetings.query 0 0) 2 (.error "down"),
        .looked 1 []] ∧
      s.table.names.count "greeter" = 1 ∧
      (∀ m, tally m (ofName "greeter") s.history = 1) ∧
      tally .result (ofName "greeter") (s.history.take 4) = 1 ∧
      Returns greetings s 2 := by
  let s₁ := greeted.turned (.caller 0) .entered [] (greeted.table.setLoad 0 .running)
  let s₂ := s₁.turned (.caller 0) .returned
    [.hinted (greetings.query 0 0), .taken (greetings.query 0 0) (.error "down"),
      .asked (greetings.query 0 0), .listed (greetings.query 0 0) 2 (.error "down")]
    ((s₁.table.receive 0 (.error "down")).setLoad 0 .done)
  let s₃ := s₂.turned (.caller 1) .returned [] s₂.table
  let s₄ := s₃.turned (.caller 1) (.choosing []) [.looked 1 []] s₃.table
  have hnew : greeted.table.get? 0 = some { name := "greeter" } := rfl
  have hloaded : s₂.table.get? 0 = some { name := "greeter", load := .done } := rfl
  have hgoal : greetings.goals 1 = .locate greet [] := rfl
  have h₁ : s₁.Reachable greetings := greeted_reachable.tail (.turn (.enter rfl rfl hnew rfl))
  have h₂ : s₂.Reachable greetings :=
    h₁.trans (finish_entered rfl (.error "down") (.error "down") rfl)
  have h₃ : s₃.Reachable greetings := h₂.tail (.turn (.arrive rfl rfl hloaded rfl))
  have h₄ : s₄.Reachable greetings := h₃.tail (.turn (.look hgoal rfl))
  have hs : greeted.Undisturbed := ⟨rfl, fun _ => nofun⟩
  have hs₁ : s₁.Undisturbed := hs.turned rfl nofun
  have hs₂ : s₂.Undisturbed := hs₁.turned rfl nofun
  have hs₃ : s₃.Undisturbed := hs₂.turned rfl nofun
  have hs₄ : s₄.Undisturbed := hs₃.turned rfl nofun
  obtain ⟨-, honce, hlooked, hreturns, -⟩ := first_load_is_once_only h₄ hs₄
  obtain ⟨hnames, hmarks⟩ := honce 0 rfl
  exact ⟨s₄, h₄, hs₄, rfl, hnames, hmarks, hlooked 4 1 [] rfl, (hreturns 2).2⟩

end Activity

end RemoteCall
