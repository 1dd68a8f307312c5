/-
Where subscriptions stand while a registry locator is at work.

A subscription keeps its name for good. Until the locator is destroyed it also stands under
that name in the table, so that there is only one of a name, and whoever subscribes to the
name gets that one (`Placed`, `Reachable.placed`).

* `Turn.table_cases`, `Traffic.profiles_of_moves` — what a turn, and what a step of a
  subscribe or a destroy, does to the subscriptions.
-/
import RemoteCall.Proofs.Locator.Activity
import RemoteCall.Proofs.Locator.Teardown

namespace RemoteCall

/-! ## Profiles -/

/-- What callers can tell of a subscription. -/
structure Profile where
  name : String
  load : LoadState := .pending
  snapshot : List ServiceInstance := []

def Subscription.profile (sub : Subscription) : Profile :=
  { name := sub.name, load := sub.load, snapshot := sub.snapshot }

namespace Subscriptions

variable {t : Subscriptions} {id id' : SubscriptionId} {name : String}

def profile? (t : Subscriptions) (id : SubscriptionId) : Option Profile :=
  (t.get? id).map (·.profile)

def name? (t : Subscriptions) (id : SubscriptionId) : Option String :=
  (t.profile? id).map (·.name)

def load? (t : Subscriptions) (id : SubscriptionId) : Option LoadState :=
  (t.profile? id).map (·.load)

theorem profile?_of_get? {sub : Subscription} (h : t.get? id = some sub) :
    t.profile? id = some sub.profile := by
  rw [profile?, h, Option.map_some]

theorem name?_of_get? {sub : Subscription} (h : t.get? id = some sub) :
    t.name? id = some sub.name := by
  rw [name?, profile?_of_get? h]
  rfl

theorem load?_of_get? {sub : Subscription} (h : t.get? id = some sub) :
    t.load? id = some sub.load := by
  rw [load?, profile?_of_get? h]
  rfl

theorem get?_of_load? {load : LoadState} (h : t.load? id = some load) :
    ∃ sub, t.get? id = some sub ∧ sub.load = load := by
  obtain ⟨profile, hprofile, hload⟩ := Option.map_eq_some_iff.mp h
  obtain ⟨sub, hget, rfl⟩ := Option.map_eq_some_iff.mp hprofile
  exact ⟨sub, hget, hload⟩

/-- The place after the last subscription is free. -/
theorem profile?_size : t.profile? t.all.size = none := by
  simp [profile?, get?]

theorem profile?_update {change : Subscription → Subscription} {f : Profile → Profile}
    (h : ∀ sub, (change sub).profile = f sub.profile) :
    (t.update id change).profile? id' =
      if id = id' then (t.profile? id').map f else t.profile? id' := by
  unfold profile?
  rw [get?_update]
  split
  · rw [Option.map_map, Option.map_map]
    exact congrArg (Option.map · (t.get? id')) (funext h)
  · rfl

theorem profile?_update_of_keeps {change : Subscription → Subscription}
    (h : ∀ sub, (change sub).profile = sub.profile) :
    (t.update id change).profile? id' = t.profile? id' := by
  rw [profile?_update (f := fun p => p) h]
  split
  · exact Option.map_id'
  · rfl

theorem profile?_setLoad {load : LoadState} :
    (t.setLoad id load).profile? id' =
      if id = id' then (t.profile? id').map fun p => { p with load := load }
      else t.profile? id' :=
  profile?_update fun _ => rfl

theorem profile?_install {instances : List ServiceInstance} :
    (t.install id instances).profile? id' =
      if id = id' then (t.profile? id').map fun p => { p with snapshot := instances }
      else t.profile? id' :=
  profile?_update fun _ => rfl

@[simp] theorem profile?_notify : (t.notify id).profile? id' = t.profile? id' :=
  profile?_update_of_keeps fun _ => rfl

@[simp] theorem profile?_stop : (t.stop name).profile? id = t.profile? id := by
  unfold stop
  cases t.services[name]? with
  | none => rfl
  | some stopped => exact profile?_notify

theorem profile_begin {sub : Subscription} {now period : Nat} :
    (sub.begin now period).profile = sub.profile := by
  unfold Subscription.begin
  split <;> rfl

/-- What stands under a name after it is inserted if absent. -/
theorem profile?_insertIfAbsent (t : Subscriptions) (name : String) :
    (t.services[name]? = some (t.insertIfAbsent name).1 ∧ (t.insertIfAbsent name).2 = t) ∨
      t.services[name]? = none ∧ (t.insertIfAbsent name).1 = t.all.size ∧
        (t.insertIfAbsent name).2.services = t.services.insert name t.all.size ∧
        ∀ id, (t.insertIfAbsent name).2.profile? id =
          if id = t.all.size then some { name := name } else t.profile? id := by
  rcases t.get?_insertIfAbsent name with h | ⟨hnone, hid, hservices, hall⟩
  · exact .inl h
  · refine .inr ⟨hnone, hid, hservices, fun id => ?_⟩
    unfold profile?
    rw [hall]
    split <;> rfl

end Subscriptions

/-! ## What steps do -/

/-- The steps of a subscribe on its own. -/
inductive Subscriber.Proceeds (t : Subscriptions) :
    Subscriber → Subscriptions → Subscriber → Prop where
  | refuse {name : String} (flag : t.destroyed = true) : Proceeds t (begun name) t refused
  | welcome {name : String} (alive : t.destroyed = false) :
    Proceeds t (begun name) t (admitted name)
  | insert {name : String} : Proceeds t (admitted name) (t.insertIfAbsent name).2
      (holding name (t.insertIfAbsent name).1)
  | withdraw {name : String} {id : SubscriptionId} (flag : t.destroyed = true) :
    Proceeds t (holding name id) t (withdrawing name id)
  | subscribe {name : String} {id : SubscriptionId} (alive : t.destroyed = false) :
    Proceeds t (holding name id) t (subscribed id)
  | unlist {name : String} {id : SubscriptionId} :
    Proceeds t (withdrawing name id) (t.removeName name) (unlisted id)
  | notify {id : SubscriptionId} : Proceeds t (unlisted id) (t.notify id) refused

theorem Subscriber.proceeds_of_next {s now : Subscriber} {t table : Subscriptions}
    (h : s.next t = some (table, now)) : s.Proceeds t table now := by
  cases s with
  | begun name =>
    cases hflag : t.destroyed with
    | true =>
      simp only [next, hflag, if_true, Option.some.injEq, Prod.mk.injEq] at h
      obtain ⟨rfl, rfl⟩ := h
      exact .refuse hflag
    | false =>
      simp only [next, hflag, Bool.false_eq_true, if_false, Option.some.injEq,
        Prod.mk.injEq] at h
      obtain ⟨rfl, rfl⟩ := h
      exact .welcome hflag
  | admitted name =>
    simp only [next, Option.some.injEq, Prod.mk.injEq] at h
    obtain ⟨rfl, rfl⟩ := h
    exact .insert
  | holding name id =>
    cases hflag : t.destroyed with
    | true =>
      simp only [next, hflag, if_true, Option.some.injEq, Prod.mk.injEq] at h
      obtain ⟨rfl, rfl⟩ := h
      exact .withdraw hflag
    | false =>
      simp only [next, hflag, Bool.false_eq_true, if_false, Option.some.injEq,
        Prod.mk.injEq] at h
      obtain ⟨rfl, rfl⟩ := h
      exact .subscribe hflag
  | withdrawing name id =>
    simp only [next, Option.some.injEq, Prod.mk.injEq] at h
    obtain ⟨rfl, rfl⟩ := h
    exact .unlist
  | unlisted id =>
    simp only [next, Option.some.injEq, Prod.mk.injEq] at h
    obtain ⟨rfl, rfl⟩ := h
    exact .notify
  | _ => cases h

namespace Traffic

variable {s s' : Traffic} {action : Action}

/-- A step of a subscribe or a destroy leaves the subscriptions as they are, or inserts one under
a name that had none. -/
theorem profiles_of_moves (h : s.Moves action s') (hchore : ∀ chore, action ≠ .chore chore) :
    (∀ id, s'.table.profile? id = s.table.profile? id) ∨
      ∃ name : String, s.table.services[name]? = none ∧
        s'.table.services = s.table.services.insert name s.table.all.size ∧
        ∀ id, s'.table.profile? id =
          if id = s.table.all.size then some { name := name } else s.table.profile? id := by
  cases h with
  | @advance k table now next =>
    show (∀ id, table.profile? id = _) ∨ ∃ name : String, _ ∧ table.services = _ ∧
      ∀ id, table.profile? id = _
    have proceeds := Subscriber.proceeds_of_next next
    generalize s.subscribers k = before at proceeds
    cases proceeds with
    | @insert name =>
      rcases s.table.profile?_insertIfAbsent name with ⟨-, hsame⟩ | ⟨hnone, -, hservices, hall⟩
      · exact .inl fun id => by rw [hsame]
      · exact .inr ⟨name, hnone, hservices, hall⟩
    | notify => exact .inl fun id => Subscriptions.profile?_notify
    | _ => exact .inl fun id => rfl
  | sweep name sweeping => exact .inl fun id => Subscriptions.profile?_stop
  | chore chore => exact absurd rfl (hchore chore)
  | _ => exact .inl fun id => rfl

/-- Nobody takes back the flag. -/
theorem destroyed_of_moves (h : s.Moves action s') (flag : s.table.destroyed = true) :
    s'.table.destroyed = true := by
  cases h with
  | @advance k table now next =>
    show table.destroyed = true
    have proceeds := Subscriber.proceeds_of_next next
    generalize s.subscribers k = before at proceeds
    cases proceeds with
    | insert => exact (Subscriptions.destroyed_insertIfAbsent _ _).trans flag
    | _ => exact flag
  | destroy _ _ => rfl
  | sweep name sweeping =>
    show (s.table.stop name).destroyed = true
    unfold Subscriptions.stop
    cases s.table.services[name]? <;> exact flag
  | chore chore => exact (chore.run_frame s.table).2.1.trans flag
  | _ => exact flag

/-- Whoever has its subscription keeps it. -/
theorem subscribed_of_moves {k : Nat} {id : SubscriptionId} (h : s.Moves action s')
    (got : s.subscribers k = .subscribed id) : s'.subscribers k = .subscribed id := by
  cases h with
  | @begin k' name idle =>
    rw [subscribers_setSubscriber, if_neg fun heq => ?_, got]
    rw [← heq, got] at idle
    cases idle
  | @advance k' table now next =>
    rw [subscribers_setSubscriber, if_neg fun heq => ?_]
    · exact got
    · rw [← heq, got] at next
      cases next
  | _ => exact got

end Traffic

namespace Activity

open Subscriptions

variable {plan : Plan} {s s' : Activity} {w : Worker} {stage : Stage} {events : List Event}
  {t : Subscriptions}

/-- A turn changes at most one subscription, and neither its name nor its handle. -/
theorem Turn.table_cases (h : s.Turn plan w stage events t) :
    t = s.table ∨ ∃ id change, t = s.table.update id change ∧
      ∀ sub, (change sub).closed = sub.closed ∧ (change sub).name = sub.name := by
  cases h with
  | enter | complete | abandon => exact .inr ⟨_, _, rfl, fun _ => ⟨rfl, rfl⟩⟩
  | @take _ q since answer =>
    cases answer with
    | ok instances => exact .inr ⟨_, _, rfl, fun _ => ⟨rfl, rfl⟩⟩
    | error e => exact .inl rfl
  | wake =>
    refine .inr ⟨_, _, rfl, fun sub => ?_⟩
    unfold Subscription.begin
    split <;> exact ⟨rfl, rfl⟩
  | tick => exact .inr ⟨_, _, rfl, fun _ => ⟨rfl, rfl⟩⟩
  | _ => exact .inl rfl

theorem Turn.frame (h : s.Turn plan w stage events t) :
    t.services = s.table.services ∧ t.destroyed = s.table.destroyed ∧
      (∀ id, t.name? id = s.table.name? id) ∧ ∀ id, t.Live id → s.table.Live id := by
  rcases h.table_cases with rfl | ⟨id, change, rfl, hkeeps⟩
  · exact ⟨rfl, rfl, fun _ => rfl, fun _ hlive => hlive⟩
  · refine ⟨rfl, rfl, fun id' => ?_, fun id' hlive => ?_⟩
    rotate_left
    · exact live_of_update hlive fun sub => (hkeeps sub).1
    unfold Subscriptions.name? Subscriptions.profile?
    rw [get?_update]
    split
    · simp [Function.comp_def, Subscription.profile, (hkeeps _).2]
    · rfl

/-- A step leaves everyone's table as it was, or it is a step of a subscribe or a destroy. -/
theorem Step.traffic_cases (h : s.Step plan s') :
    (∃ action, s.traffic.Moves action s'.traffic ∧ plan.Allows action ∧
      (∀ chore, action ≠ .chore chore) ∧ s'.stages = s.stages ∧ s'.history = s.history) ∨
    ∃ t, s'.traffic = { s.traffic with table := t } ∧ t.services = s.table.services ∧
      t.destroyed = s.table.destroyed ∧ (∀ id, t.name? id = s.table.name? id) ∧
      ∀ id, t.Live id → s.table.Live id := by
  cases h with
  | @traffic action t allowed step =>
    refine .inl ⟨action, Traffic.moves_of_step step, allowed, ?_, rfl, rfl⟩
    rintro chore rfl
    exact allowed
  | turn turn => exact .inr ⟨_, rfl, turn.frame⟩
  | _ => exact .inr ⟨s.table, rfl, rfl, rfl, fun _ => rfl, fun _ hlive => hlive⟩

theorem Reachable.sound (h : s.Reachable plan) : s.traffic.Sound := by
  induction h with
  | refl => exact .inl Traffic.start_open
  | @tail s s' _ step ih =>
    cases step with
    | traffic _ step => exact ih.step step
    | turn turn =>
      obtain ⟨hservices, hflag, -, hlive⟩ := turn.frame
      exact ih.retable hservices hflag hlive
    | _ => exact ih

theorem Step.destroyed (h : s.Step plan s') (flag : s.table.destroyed = true) :
    s'.table.destroyed = true := by
  rcases h.traffic_cases with ⟨_, hmoves, -⟩ | ⟨t, ht, -, hflag, -⟩
  · exact Traffic.destroyed_of_moves hmoves flag
  · rw [table, ht]
    exact hflag.trans flag

theorem Step.alive (h : s.Step plan s') (alive : s'.table.destroyed = false) :
    s.table.destroyed = false := by
  by_contra hflag
  have hafter := h.destroyed (by simpa using hflag)
  rw [hafter] at alive
  cases alive

theorem Step.subscribed {k : Nat} {id : SubscriptionId} (h : s.Step plan s')
    (got : s.traffic.subscribers k = .subscribed id) :
    s'.traffic.subscribers k = .subscribed id := by
  rcases h.traffic_cases with ⟨_, hmoves, -⟩ | ⟨t, ht, -⟩
  · exact Traffic.subscribed_of_moves hmoves got
  · rw [ht]
    exact got

end Activity

/-! ## Every subscription under its name -/

/-- A subscribe is about a name, and so is the subscription that it has got. -/
def Subscriber.Serves (t : Subscriptions) (name : String) : Subscriber → Prop
  | begun n => n = name
  | admitted n => n = name
  | holding n id => n = name ∧ t.name? id = some name
  | withdrawing n id => n = name ∧ t.name? id = some name
  | unlisted id => t.name? id = some name
  | subscribed id => t.name? id = some name
  | _ => True

theorem Subscriber.Serves.mono {s : Subscriber} {t t' : Subscriptions} {name : String}
    (h : s.Serves t name) (keeps : ∀ id, t.name? id = some name → t'.name? id = some name) :
    s.Serves t' name := by
  cases s with
  | holding n id => exact ⟨h.1, keeps id h.2⟩
  | withdrawing n id => exact ⟨h.1, keeps id h.2⟩
  | unlisted id => exact keeps id h
  | subscribed id => exact keeps id h
  | _ => exact h

namespace Activity

open Subscriptions

variable {plan : Plan} {s s' : Activity} {w : Worker} {stage : Stage} {events : List Event}
  {t : Subscriptions}

/-- Callers have subscriptions of the names that they want, what stands under a name has that
name, and until the locator is destroyed every subscription stands under its name. -/
structure Placed (plan : Plan) (s : Activity) : Prop where
  serves : ∀ k, (s.traffic.subscribers k).Serves s.table (plan.goals k).name
  listed : ∀ (name : String) id, s.table.services[name]? = some id → s.table.name? id = some name
  kept : s.table.destroyed = false → ∀ id (name : String), s.table.name? id = some name →
    s.table.services[name]? = some id

theorem start_placed : start.Placed plan where
  serves k := trivial
  listed name id h := by simp [start, Traffic.start] at h
  kept _ id name h := by simp [start, Traffic.start, name?, profile?, get?] at h

/-- A step that takes at most names out of the table, and none while the locator is alive. -/
theorem Placed.of_shrinking (h : s.Placed plan)
    (names : ∀ id, s'.table.name? id = s.table.name? id)
    (services : ∀ (name : String) id, s'.table.services[name]? = some id →
      s.table.services[name]? = some id)
    (alive : s'.table.destroyed = false →
      s.table.destroyed = false ∧ s'.table.services = s.table.services)
    (serves : ∀ k, (s'.traffic.subscribers k).Serves s.table (plan.goals k).name) :
    s'.Placed plan where
  serves k := (serves k).mono fun id hid => (names id).trans hid
  listed name id hid := (names id).trans (h.listed name id (services name id hid))
  kept flag id name hid := by
    obtain ⟨hflag, hservices⟩ := alive flag
    rw [hservices]
    exact h.kept hflag id name ((names id).symm.trans hid)

/-- A step that leaves the subscriptions alone. -/
theorem Placed.of_same_table (h : s.Placed plan) (same : s'.table = s.table)
    (serves : ∀ k, (s'.traffic.subscribers k).Serves s.table (plan.goals k).name) :
    s'.Placed plan := by
  refine h.of_shrinking (fun id => ?_) (fun n id hn => ?_) (fun flag => ?_) serves
  · rw [same]
  · rwa [← same]
  · exact ⟨same ▸ flag, congrArg _ same⟩

/-- An insertion starts a new subscription only under a name that has none. -/
theorem Placed.insert (h : s.Placed plan) (k : Nat) :
    Placed plan { s with
      traffic := { s.traffic with table := (s.table.insertIfAbsent (plan.goals k).name).2 }
        |>.setSubscriber k
          (.holding (plan.goals k).name (s.table.insertIfAbsent (plan.goals k).name).1) } := by
  generalize hname : (plan.goals k).name = name
  rcases s.table.profile?_insertIfAbsent name with
    ⟨hsome, hsame⟩ | ⟨hnone, hid, hservices, hprofile⟩
  · refine h.of_shrinking (fun id => ?_) (fun n id hn => ?_) (fun flag => ?_) fun k' => ?_
    · show (s.table.insertIfAbsent name).2.name? id = s.table.name? id
      rw [hsame]
    · change (s.table.insertIfAbsent name).2.services[n]? = some id at hn
      rwa [hsame] at hn
    · change (s.table.insertIfAbsent name).2.destroyed = false at flag
      rw [hsame] at flag
      exact ⟨flag, congrArg _ hsame⟩
    · rw [Traffic.subscribers_setSubscriber]
      split
      · next heq => exact ⟨by rw [heq, hname], by rw [heq, hname]; exact h.listed name _ hsome⟩
      · exact h.serves k'
  · -- The new subscription has the place after all others.
    have hnames : ∀ id, (s.table.insertIfAbsent name).2.name? id =
        if id = s.table.all.size then some name else s.table.name? id := by
      intro id
      unfold name?
      rw [hprofile]
      split <;> rfl
    have hfree : s.table.name? s.table.all.size = none := by
      rw [name?, profile?_size]
      rfl
    have hkeeps : ∀ id n, s.table.name? id = some n →
        (s.table.insertIfAbsent name).2.name? id = some n := by
      intro id n hn
      rw [hnames, if_neg fun heq => ?_, hn]
      rw [heq, hfree] at hn
      cases hn
    have hnew : (s.table.insertIfAbsent name).2.name? s.table.all.size = some name := by
      rw [hnames, if_pos rfl]
    refine ⟨fun k' => ?_, fun n id hn => ?_, fun flag id n hn => ?_⟩
    · rw [Traffic.subscribers_setSubscriber]
      split
      · next heq => exact ⟨by rw [heq, hname], by rw [heq, hname, hid]; exact hnew⟩
      · exact (h.serves k').mono fun id => hkeeps id _
    · change (s.table.insertIfAbsent name).2.services[n]? = some id at hn
      rw [hservices, Std.ExtTreeMap.getElem?_insert] at hn
      split at hn
      · next heq =>
        cases hn
        rw [← Std.LawfulEqCmp.eq_of_compare heq]
        exact hnew
      · exact hkeeps id n (h.listed n id hn)
    · have halive : s.table.destroyed = false :=
        (destroyed_insertIfAbsent s.table name).symm.trans flag
      change (s.table.insertIfAbsent name).2.name? id = some n at hn
      show (s.table.insertIfAbsent name).2.services[n]? = some id
      rw [hnames] at hn
      rw [hservices, Std.ExtTreeMap.getElem?_insert]
      split at hn
      · next heq =>
        cases hn
        simp [heq]
      · have hold := h.kept halive id n hn
        split
        · next heq =>
          rw [Std.LawfulEqCmp.eq_of_compare heq, hold] at hnone
          cases hnone
        · exact hold

theorem Placed.advance (h : s.Placed plan) (hsound : s.traffic.Sound) {k : Nat}
    {table : Subscriptions} {now : Subscriber}
    (next : (s.traffic.subscribers k).next s.table = some (table, now)) :
    Placed plan { s with traffic := { s.traffic with table := table }.setSubscriber k now } := by
  have proceeds := Subscriber.proceeds_of_next next
  have hserves := h.serves k
  -- A subscribe cleans up only once the flag is set.
  have hclean : ∀ id, (s.traffic.subscribers k).handle? = some id →
      (∀ name, s.traffic.subscribers k ≠ .holding name id) → s.table.destroyed ≠ false := by
    intro id hid hnot halive
    obtain ⟨name, hname, -⟩ := (hsound.open_of_alive halive).held k id hid
    exact hnot name hname
  -- What is left to see to where the table has no new names.
  have hshrink : (∀ id, table.name? id = s.table.name? id) →
      (∀ (name : String) id, table.services[name]? = some id →
        s.table.services[name]? = some id) →
      (table.destroyed = false →
        s.table.destroyed = false ∧ table.services = s.table.services) →
      now.Serves s.table (plan.goals k).name →
      Placed plan { s with
        traffic := { s.traffic with table := table }.setSubscriber k now } := by
    intro hnames hservices halive hnow
    refine h.of_shrinking hnames hservices halive fun k' => ?_
    rw [Traffic.subscribers_setSubscriber]
    split
    · next heq => exact heq ▸ hnow
    · exact h.serves k'
  have hsame : table = s.table → now.Serves s.table (plan.goals k).name →
      Placed plan { s with
        traffic := { s.traffic with table := table }.setSubscriber k now } := by
    rintro rfl hnow
    exact hshrink (fun _ => rfl) (fun _ _ hn => hn) (fun flag => ⟨flag, rfl⟩) hnow
  generalize hk : s.traffic.subscribers k = before at proceeds hserves
  cases proceeds with
  | refuse => exact hsame rfl trivial
  | welcome => exact hsame rfl hserves
  | @insert name =>
    obtain rfl : name = (plan.goals k).name := hserves
    exact h.insert k
  | withdraw => exact hsame rfl hserves
  | subscribe => exact hsame rfl hserves.2
  | @unlist name id =>
    refine hshrink (fun _ => rfl) (fun n other hn => (ne_of_removeName hn).2) (fun flag => ?_)
      hserves.2
    exact absurd flag (hclean id (by rw [hk]; rfl) (by simp [hk]))
  | @notify id =>
    refine hshrink (fun _ => ?_) (fun _ _ hn => hn) (fun flag => ?_) trivial
    · unfold name?
      rw [profile?_notify]
    · exact ⟨flag, rfl⟩

theorem Placed.step (h : s.Placed plan) (hsound : s.traffic.Sound) (step : s.Step plan s') :
    s'.Placed plan := by
  cases step with
  | @traffic action t allowed step =>
    cases Traffic.moves_of_step step with
    | @begin k name idle =>
      refine h.of_same_table rfl fun k' => ?_
      rw [Traffic.subscribers_setSubscriber]
      split
      · next heq => exact heq ▸ allowed
      · exact h.serves k'
    | advance next => exact h.advance hsound next
    | skip => exact h.of_same_table rfl h.serves
    | destroy => exact h.of_shrinking (fun _ => rfl) (fun _ _ hn => hn) nofun h.serves
    | @sweep d left name sweeping =>
      refine h.of_shrinking (fun id => ?_) (fun n id hn => ?_) (fun flag => ?_) h.serves
      · show (s.table.stop name).name? id = s.table.name? id
        unfold name?
        rw [profile?_stop]
      · change (s.table.stop name).services[n]? = some id at hn
        rw [services_stop] at hn
        split at hn
        · cases hn
        · exact hn
      · -- Nobody sweeps while the locator is alive.
        have halive : s.table.destroyed = false := by
          by_contra hflag
          have hafter := Traffic.destroyed_of_moves (Traffic.moves_of_step step)
            (by simpa using hflag)
          rw [hafter] at flag
          cases flag
        have hidle := (hsound.open_of_alive halive).idle d
        rw [hidle] at sweeping
        cases sweeping
    | finish => exact h.of_same_table rfl h.serves
    | chore chore => exact allowed.elim
  | turn turn =>
    obtain ⟨hservices, hflag, hnames, -⟩ := turn.frame
    refine h.of_shrinking hnames (fun n id hn => ?_) (fun flag => ?_) h.serves
    · rwa [← hservices]
    · exact ⟨hflag ▸ flag, hservices⟩
  | _ => exact ⟨h.serves, h.listed, h.kept⟩

theorem Reachable.placed (h : s.Reachable plan) : s.Placed plan := by
  induction h with
  | refl => exact start_placed
  | tail before step ih => exact ih.step (Reachable.sound before) step

theorem Asks.name?_eq {q : Query} (h : s.Asks plan q) (hplaced : s.Placed plan) :
    s.table.name? q.id = some q.name := by
  cases h with
  | @caller k id got =>
    have hserves := hplaced.serves k
    rw [got] at hserves
    exact hserves
  | refresher get => exact name?_of_get? get

/-- A subscription keeps its name. -/
theorem Step.name?_eq {id : SubscriptionId} {name : String} (h : s.Step plan s')
    (hid : s.table.name? id = some name) : s'.table.name? id = some name := by
  rcases h.traffic_cases with ⟨_, hmoves, -, hchore, -⟩ | ⟨t, ht, -, -, hnames, -⟩
  · unfold name? at hid ⊢
    rcases Traffic.profiles_of_moves hmoves hchore with hsame | ⟨_, -, -, hprofile⟩
    · rw [table, hsame]
      exact hid
    · rw [table, hprofile, if_neg fun heq => ?_]
      · exact hid
      · rw [heq, profile?_size] at hid
        cases hid
  · rw [table, ht]
    exact (hnames id).trans hid

/-- The question that an event is about. -/
def Event.query? : Event → Option Query
  | .hinted q => some q
  | .taken q _ => some q
  | .asked q => some q
  | .listed q _ _ => some q
  | .looked _ _ => none

theorem Turn.asks_of_mem {e : Event} {q : Query} (h : s.Turn plan w stage events t)
    (he : e ∈ events) (hq : e.query? = some q) : s.Asks plan q := by
  cases h with
  | hint asks | accept asks | ask asks | take asks | tick asks =>
    rw [List.mem_singleton.mp he] at hq
    cases hq
    exact asks
  | look =>
    rw [List.mem_singleton.mp he] at hq
    cases hq
  | _ => cases he

/-- Whatever was asked for a subscription was asked under its name. -/
def Named (s : Activity) : Prop :=
  ∀ e ∈ s.history, ∀ q, e.query? = some q → s.table.name? q.id = some q.name

theorem Reachable.named (h : s.Reachable plan) : s.Named := by
  induction h with
  | refl => exact fun e he => nomatch he
  | @tail s s' before step ih =>
    have hold : ∀ e ∈ s.history, ∀ q, e.query? = some q → s'.table.name? q.id = some q.name :=
      fun e he q hq => step.name?_eq (ih e he q hq)
    cases step with
    | turn turn =>
      intro e he q hq
      rcases List.mem_append.mp he with hbefore | hnow
      · exact hold e hbefore q hq
      · have hname := (turn.asks_of_mem hnow hq).name?_eq (Reachable.placed before)
        exact (turn.frame.2.2.1 q.id).trans hname
    | _ => exact hold

/-- **One of a name.** Until the locator is destroyed, two subscriptions of one name are the
same. -/
theorem Placed.id_eq (h : s.Placed plan) (alive : s.table.destroyed = false)
    {id id' : SubscriptionId} {name : String} (hid : s.table.name? id = some name)
    (hid' : s.table.name? id' = some name) : id = id' := by
  have hsome := h.kept alive id name hid
  rw [h.kept alive id' name hid'] at hsome
  exact (Option.some.inj hsome).symm

end Activity

end RemoteCall
