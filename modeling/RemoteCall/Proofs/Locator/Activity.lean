/-
A registry locator at work, and everyone who takes part in that.

Callers subscribe or locate, refreshers list the instances of a provider whenever that is
due, and the locator may be destroyed at any time. How a caller gets its subscription, and
how a destroy goes about it, are the steps of `Traffic`; what comes after is a `Turn` of a
worker. The first caller that comes to a new subscription loads it, with a hint to the
registry and a listing, and whoever comes meanwhile waits until that is over. The registry
takes as long as it likes over an answer, and the answer may be an error. A caller may be
dropped where it waits.

The history has what was asked of the registry, in the order of asking, and what became of
it, in the order in which the answers were taken in.

* `Activity.Consults` — what is asked of a registry, and what it answers by itself.
* `Activity.locate_alone`, `Activity.tick_alone` — with no one acting in between, these
  steps are what a locator does, and what they ask is what it asks of its registry.
-/
import Mathlib.Logic.Relation
import RemoteCall.Proofs.Locator.Traffic

namespace RemoteCall

/-- Takes in the answer to a listing: a list replaces what was known, an error does not. -/
def Subscriptions.receive (t : Subscriptions) (id : SubscriptionId) :
    Except String (List ServiceInstance) → Subscriptions
  | .ok instances => t.install id instances
  | .error _ => t

theorem Subscriptions.get?_update {t : Subscriptions} {id id' : SubscriptionId}
    {change : Subscription → Subscription} :
    (t.update id change).get? id' = if id = id' then (t.get? id').map change else t.get? id' := by
  simp [update, get?, Array.getElem?_modify]

/-- What a caller wants of a locator. -/
inductive Goal where
  | subscribe (name : String)
  | locate (invocation : Invocation) (exclusions : List ServiceInstance)

/-- The name that a caller subscribes to. -/
def Goal.name : Goal → String
  | subscribe name => name
  | locate invocation _ => invocation.targetName

namespace Activity

/-- What the callers want, and the interval of the refreshers in milliseconds. -/
structure Plan where
  goals : Nat → Goal
  interval : Nat := 30000

inductive Worker where
  | caller (k : Nat)
  | refresher (id : SubscriptionId)
deriving DecidableEq, Repr

/-- What is asked of the registry: by whom, for which subscription, and under which name. -/
structure Query where
  worker : Worker
  id : SubscriptionId
  name : String
deriving DecidableEq, Repr

/-- How far a worker has come. Callers begin here once they have a subscription. -/
inductive Stage where
  /-- A caller has yet to look whether its subscription is loaded; a refresher listens. -/
  | idle
  /-- It is up to this caller to load the subscription. -/
  | entered
  | hinting
  | hinted
  /-- The registry has been asked for instances, at this place of the history. -/
  | listing (since : Nat)
  | answered (since : Nat) (answer : Except String (List ServiceInstance))
  | loaded
  | returned
  | choosing (candidates : List ServiceInstance)
  | located (picked : Option ServiceInstance)
  | cancelled
  /-- A refresher has heeded its close handle. -/
  | stopped

inductive Event where
  | hinted (query : Query)
  /-- The registry has dealt with a hint. -/
  | taken (query : Query) (outcome : Except String Unit)
  | asked (query : Query)
  /-- An answer was taken in, to what was asked at an earlier place of the history. -/
  | listed (query : Query) (since : Nat) (answer : Except String (List ServiceInstance))
  | looked (k : Nat) (candidates : List ServiceInstance)

/-- How far a destroy that stopped all refreshers has come with letting go of the registry. -/
inductive Release where
  | pending
  | releasing
  | done
deriving DecidableEq, Repr

end Activity

/-- A registry locator with all who take part. -/
structure Activity where
  traffic : Traffic
  stages : Activity.Worker → Activity.Stage
  releases : Nat → Activity.Release
  now : Nat
  history : List Activity.Event

namespace Activity

/-- Nobody has done anything. -/
def start : Activity :=
  { traffic := .start, stages := fun _ => .idle, releases := fun _ => .pending, now := 0,
    history := [] }

abbrev table (s : Activity) : Subscriptions := s.traffic.table

/-! ## Steps -/

/-- What comes of a turn: the new stage of the worker, what there is to tell, and the
subscriptions. -/
def turned (s : Activity) (w : Worker) (stage : Stage) (events : List Event)
    (t : Subscriptions) : Activity :=
  { s with
    traffic := { s.traffic with table := t }
    stages := Function.update s.stages w stage
    history := s.history ++ events }

/-- When a refresher that ticks now is due again. -/
def Plan.dueAfter (plan : Plan) (now due : Nat) : Nat :=
  if due + RegistryLocator.tolerance < now then now + plan.interval else due + plan.interval

/-- What a caller asks when it loads a subscription. -/
def Plan.query (plan : Plan) (k : Nat) (id : SubscriptionId) : Query :=
  { worker := .caller k, id := id, name := (plan.goals k).name }

/-- The question that a worker has for the registry: a caller asks for the subscription that it
got, and a refresher for its own. -/
inductive Asks (plan : Plan) (s : Activity) : Query → Prop where
  | caller {k : Nat} {id : SubscriptionId} (got : s.traffic.subscribers k = .subscribed id) :
    Asks plan s (plan.query k id)
  | refresher {id : SubscriptionId} {sub : Subscription} (get : s.table.get? id = some sub) :
    Asks plan s ⟨.refresher id, id, sub.name⟩

/-- Where a worker is once it has taken in an answer. -/
def Worker.after : Worker → Stage
  | caller _ => .loaded
  | refresher _ => .idle

/-- A caller waits for the registry, and can be dropped while it does. -/
def Stage.awaits : Stage → Bool
  | hinting => true
  | listing _ => true
  | answered _ _ => true
  | _ => false

/-- Who can take a turn, and what comes of it. -/
inductive Turn (plan : Plan) (s : Activity) :
    Worker → Stage → List Event → Subscriptions → Prop where
  /-- The subscription is loaded already. -/
  | arrive {k : Nat} {id : SubscriptionId} {sub : Subscription}
    (got : s.traffic.subscribers k = .subscribed id) (idle : s.stages (.caller k) = .idle)
    (get : s.table.get? id = some sub) (done : sub.load = .done) :
    Turn plan s (.caller k) .returned [] s.table
  /-- Nobody loads the subscription yet. -/
  | enter {k : Nat} {id : SubscriptionId} {sub : Subscription}
    (got : s.traffic.subscribers k = .subscribed id) (idle : s.stages (.caller k) = .idle)
    (get : s.table.get? id = some sub) (pending : sub.load = .pending) :
    Turn plan s (.caller k) .entered [] (s.table.setLoad id .running)
  | hint {k : Nat} {q : Query} (asks : s.Asks plan q) (who : q.worker = .caller k)
    (entered : s.stages (.caller k) = .entered) :
    Turn plan s (.caller k) .hinting [.hinted q] s.table
  /-- The caller goes on whatever the registry says to its hint. -/
  | accept {k : Nat} {q : Query} (asks : s.Asks plan q) (who : q.worker = .caller k)
    (hinting : s.stages (.caller k) = .hinting) (outcome : Except String Unit) :
    Turn plan s (.caller k) .hinted [.taken q outcome] s.table
  | ask {k : Nat} {q : Query} (asks : s.Asks plan q) (who : q.worker = .caller k)
    (hinted : s.stages (.caller k) = .hinted) :
    Turn plan s (.caller k) (.listing s.history.length) [.asked q] s.table
  | answer {w : Worker} {since : Nat} (listing : s.stages w = .listing since)
    (answer : Except String (List ServiceInstance)) :
    Turn plan s w (.answered since answer) [] s.table
  | take {w : Worker} {q : Query} {since : Nat} {answer : Except String (List ServiceInstance)}
    (asks : s.Asks plan q) (who : q.worker = w) (answered : s.stages w = .answered since answer) :
    Turn plan s w w.after [.listed q since answer] (s.table.receive q.id answer)
  | complete {k : Nat} {id : SubscriptionId} (got : s.traffic.subscribers k = .subscribed id)
    (loaded : s.stages (.caller k) = .loaded) :
    Turn plan s (.caller k) .returned [] (s.table.setLoad id .done)
  | look {k : Nat} {invocation : Invocation} {exclusions : List ServiceInstance}
    (goal : plan.goals k = .locate invocation exclusions)
    (returned : s.stages (.caller k) = .returned) :
    Turn plan s (.caller k) (.choosing (s.table.snapshot invocation.targetName))
      [.looked k (s.table.snapshot invocation.targetName)] s.table
  /-- The balancer is in whatever state other calls have left it. -/
  | pick {k : Nat} {invocation : Invocation} {exclusions candidates : List ServiceInstance}
    (goal : plan.goals k = .locate invocation exclusions)
    (choosing : s.stages (.caller k) = .choosing candidates) (b : Balancer) :
    Turn plan s (.caller k)
      (.located ((Selector.ofBalancer b).select invocation candidates exclusions).1) [] s.table
  /-- A caller is dropped before it came to the load, or while it waits for someone else's. -/
  | leave {k : Nat} {id : SubscriptionId} (got : s.traffic.subscribers k = .subscribed id)
    (idle : s.stages (.caller k) = .idle) : Turn plan s (.caller k) .cancelled [] s.table
  /-- A caller is dropped while it waits for the registry; the next one can load then. -/
  | abandon {k : Nat} {id : SubscriptionId} (got : s.traffic.subscribers k = .subscribed id)
    (awaits : (s.stages (.caller k)).awaits = true) :
    Turn plan s (.caller k) .cancelled [] (s.table.setLoad id .pending)
  | wake {id : SubscriptionId} {sub : Subscription} (get : s.table.get? id = some sub)
    (idle : s.stages (.refresher id) = .idle) :
    Turn plan s (.refresher id) .idle []
      (s.table.update id fun sub => sub.begin s.now plan.interval)
  /-- A refresher that listens may tick when that is due, also if its handle was notified. -/
  | tick {id : SubscriptionId} {q : Query} {sub : Subscription} {due : Nat}
    (asks : s.Asks plan q) (who : q.worker = .refresher id)
    (idle : s.stages (.refresher id) = .idle) (get : s.table.get? id = some sub)
    (set : sub.refresher = .due due) (ready : due ≤ s.now) :
    Turn plan s (.refresher id) (.listing s.history.length) [.asked q]
      (s.table.update id fun sub => { sub with refresher := .due (plan.dueAfter s.now due) })
  | heed {id : SubscriptionId} {sub : Subscription} (idle : s.stages (.refresher id) = .idle)
    (get : s.table.get? id = some sub) (closed : sub.closed = true) :
    Turn plan s (.refresher id) .stopped [] s.table

/-- Callers subscribe to the names that they want; loading and refreshing are turns. -/
def Plan.Allows (plan : Plan) : Traffic.Action → Prop
  | .begin k name => name = (plan.goals k).name
  | .chore _ => False
  | _ => True

/-- One step of someone. -/
inductive Step (plan : Plan) (s : Activity) : Activity → Prop where
  | traffic {action : Traffic.Action} {t : Traffic} (allowed : plan.Allows action)
    (step : s.traffic.step action = some t) : Step plan s { s with traffic := t }
  | turn {w : Worker} {stage : Stage} {events : List Event} {t : Subscriptions}
    (turn : s.Turn plan w stage events t) : Step plan s (s.turned w stage events t)
  /-- A destroy that has stopped the refreshers lets go of the registry. -/
  | release {d : Nat} (finished : s.traffic.destroyers d = .finished)
    (pending : s.releases d = .pending) :
    Step plan s { s with releases := Function.update s.releases d .releasing }
  /-- It returns once the registry is done with that. -/
  | released {d : Nat} (releasing : s.releases d = .releasing) :
    Step plan s { s with releases := Function.update s.releases d .done }
  | pass (millis : Nat) : Step plan s { s with now := s.now + millis }

/-- Steps one after the other. -/
abbrev Runs (plan : Plan) : Activity → Activity → Prop :=
  Relation.ReflTransGen (Step plan)

/-- Some order of steps leads here. -/
def Reachable (plan : Plan) (s : Activity) : Prop :=
  Runs plan start s

/-- A destroy that stopped the refreshers has returned. -/
def Destroyed (s : Activity) : Prop :=
  ∃ d, s.releases d = .done

variable {plan : Plan} {s s' : Activity} {w w' : Worker} {stage : Stage} {events : List Event}
  {t : Subscriptions}

theorem stages_turned :
    (s.turned w stage events t).stages w' = if w' = w then stage else s.stages w' := by
  simp [turned, Function.update_apply]

@[simp] theorem stages_turned_self : (s.turned w stage events t).stages w = stage := by
  simp [stages_turned]

theorem stages_turned_caller {k k' : Nat} (h : k ≠ k') :
    (s.turned (.caller k) stage events t).stages (.caller k') = s.stages (.caller k') := by
  rw [stages_turned, if_neg fun heq => h (Worker.caller.inj heq).symm]

@[simp] theorem table_turned : (s.turned w stage events t).table = t := rfl

@[simp] theorem subscribers_turned :
    (s.turned w stage events t).traffic.subscribers = s.traffic.subscribers := rfl

@[simp] theorem history_turned :
    (s.turned w stage events t).history = s.history ++ events := rfl

/-- Whatever happens is added to the history. -/
theorem Step.history (h : s.Step plan s') : ∃ events, s'.history = s.history ++ events := by
  cases h with
  | turn turn => exact ⟨_, rfl⟩
  | _ => exact ⟨[], (List.append_nil _).symm⟩

theorem Runs.history (h : Runs plan s s') : ∃ events, s'.history = s.history ++ events := by
  induction h with
  | refl => exact ⟨[], (List.append_nil _).symm⟩
  | tail _ step ih =>
    obtain ⟨events, hevents⟩ := ih
    obtain ⟨more, hmore⟩ := step.history
    exact ⟨events ++ more, by rw [hmore, hevents, List.append_assoc]⟩

theorem turned_turned {stage' : Stage} {events' : List Event} {t' : Subscriptions} :
    (s.turned w stage events t).turned w stage' events' t' =
      s.turned w stage' (events ++ events') t' := by
  simp [turned]

/-- What callers and destroys do between turns. -/
theorem Runs.of_traffic {actions : List Traffic.Action} {t : Traffic}
    (h : s.traffic.run actions = some t) (allowed : ∀ action ∈ actions, plan.Allows action) :
    Runs plan s { s with traffic := t } := by
  induction actions generalizing s with
  | nil =>
    cases h
    exact .refl
  | cons action actions ih =>
    obtain ⟨middle, hstep, hrest⟩ := Option.bind_eq_some_iff.mp h
    have hfirst : s.Step plan { s with traffic := middle } :=
      .traffic (allowed action List.mem_cons_self) hstep
    have hlater := ih (s := { s with traffic := middle }) hrest fun other hother =>
      allowed other (List.mem_cons_of_mem action hother)
    exact hlater.head hfirst

/-- A worker that ends its run at a stage may begin it with one more turn. -/
theorem Runs.of_turn {stage' : Stage} {more : List Event} {t' : Subscriptions}
    (turn : s.Turn plan w stage events t)
    (rest : Runs plan (s.turned w stage events t)
      ((s.turned w stage events t).turned w stage' more t')) :
    Runs plan s (s.turned w stage' (events ++ more) t') := by
  rw [turned_turned] at rest
  exact rest.head (.turn turn)

/-! ## With no one acting in between -/

section Loading

variable {k : Nat} {id : SubscriptionId} (got : s.traffic.subscribers k = .subscribed id)
include got

theorem finish_loaded (loaded : s.stages (.caller k) = .loaded) :
    Runs plan s (s.turned (.caller k) .returned [] (s.table.setLoad id .done)) :=
  .single (.turn (.complete got loaded))

variable {since : Nat} (answer : Except String (List ServiceInstance))

theorem take_listing (listing : s.stages (.caller k) = .listing since) :
    Runs plan s (s.turned (.caller k) .loaded [.listed (plan.query k id) since answer]
      (s.table.receive id answer)) := by
  refine Runs.of_turn (.answer listing answer)
    (.single (.turn (.take (.caller ?_) rfl stages_turned_self)))
  exact got

theorem finish_answered (answered : s.stages (.caller k) = .answered since answer) :
    Runs plan s (s.turned (.caller k) .returned
      [.listed (plan.query k id) since answer]
      ((s.table.receive id answer).setLoad id .done)) :=
  Runs.of_turn (.take (.caller got) rfl answered) (finish_loaded got stages_turned_self)

theorem finish_listing (listing : s.stages (.caller k) = .listing since) :
    Runs plan s (s.turned (.caller k) .returned
      [.listed (plan.query k id) since answer]
      ((s.table.receive id answer).setLoad id .done)) := by
  refine Runs.of_turn (.answer listing answer) (finish_answered ?_ answer stages_turned_self)
  exact got

/-- However it came to ask. -/
theorem finish_asked (asked : Runs plan s (s.turned (.caller k) (.listing since) events s.table)) :
    Runs plan s (s.turned (.caller k) .returned
      (events ++ [.listed (plan.query k id) since answer])
      ((s.table.receive id answer).setLoad id .done)) := by
  rw [← turned_turned]
  refine asked.trans (finish_listing ?_ answer stages_turned_self)
  exact got

theorem ask_hinted (hinted : s.stages (.caller k) = .hinted) :
    Runs plan s (s.turned (.caller k) (.listing s.history.length) [.asked (plan.query k id)]
      s.table) :=
  .single (.turn (.ask (.caller got) rfl hinted))

variable (outcome : Except String Unit)

theorem ask_hinting (hinting : s.stages (.caller k) = .hinting) :
    Runs plan s (s.turned (.caller k) (.listing (s.history.length + 1))
      [.taken (plan.query k id) outcome, .asked (plan.query k id)] s.table) := by
  have hlength : s.history.length + 1 =
      (s.history ++ [Event.taken (plan.query k id) outcome]).length := by
    rw [List.length_append, List.length_singleton]
  rw [hlength]
  refine Runs.of_turn (.accept (.caller got) rfl hinting outcome) (ask_hinted ?_ stages_turned_self)
  exact got

theorem ask_entered (entered : s.stages (.caller k) = .entered) :
    Runs plan s (s.turned (.caller k) (.listing (s.history.length + 2))
      [.hinted (plan.query k id), .taken (plan.query k id) outcome, .asked (plan.query k id)]
      s.table) := by
  have hlength : s.history.length + 2 =
      (s.history ++ [Event.hinted (plan.query k id)]).length + 1 := by
    rw [List.length_append, List.length_singleton]
  rw [hlength]
  refine Runs.of_turn (.hint (.caller got) rfl entered) (ask_hinting ?_ outcome stages_turned_self)
  exact got

theorem finish_entered (entered : s.stages (.caller k) = .entered) :
    Runs plan s (s.turned (.caller k) .returned
      [.hinted (plan.query k id), .taken (plan.query k id) outcome, .asked (plan.query k id),
        .listed (plan.query k id) (s.history.length + 2) answer]
      ((s.table.receive id answer).setLoad id .done)) :=
  finish_asked got answer (ask_entered got outcome entered)

end Loading

theorem Asks.of_get? {id : SubscriptionId} {sub : Subscription} {name : String}
    (get : s.table.get? id = some sub) (named : sub.name = name) :
    s.Asks plan ⟨.refresher id, id, name⟩ :=
  named ▸ .refresher get

/-- A refresher that ticks gets an answer at once. -/
theorem tick_answered {id : SubscriptionId} {sub : Subscription} {due : Nat}
    (get : s.table.get? id = some sub) (idle : s.stages (.refresher id) = .idle)
    (set : sub.refresher = .due due) (ready : due ≤ s.now)
    (answer : Except String (List ServiceInstance)) :
    Runs plan s (s.turned (.refresher id) .idle
      [.asked ⟨.refresher id, id, sub.name⟩,
        .listed ⟨.refresher id, id, sub.name⟩ s.history.length answer]
      ((s.table.update id fun sub =>
        { sub with refresher := .due (plan.dueAfter s.now due) }).receive id answer)) := by
  have hset : (s.table.update id fun sub =>
      { sub with refresher := .due (plan.dueAfter s.now due) }).get? id =
        some { sub with refresher := .due (plan.dueAfter s.now due) } := by
    rw [Subscriptions.get?_update, if_pos rfl, get, Option.map_some]
  exact Runs.of_turn (.tick (.refresher get) rfl idle get set ready)
    (Runs.of_turn (.answer stages_turned_self answer)
      (.single (.turn (.take (.of_get? hset rfl) rfl stages_turned_self))))

/-- A caller gets its subscription, unless the locator is destroyed. -/
theorem get_subscription (plan : Plan) {k : Nat} (idle : s.traffic.subscribers k = .idle)
    (alive : s.table.destroyed = false) :
    ∃ t, Runs plan s { s with traffic := t } ∧
      t.table = (s.table.insertIfAbsent (plan.goals k).name).2 ∧
      t.subscribers k = .subscribed (s.table.insertIfAbsent (plan.goals k).name).1 := by
  let t : Traffic := { s.traffic with
    table := (s.table.insertIfAbsent (plan.goals k).name).2 }.setSubscriber k
      (.subscribed (s.table.insertIfAbsent (plan.goals k).name).1)
  have hrun : s.traffic.run
      [.begin k (plan.goals k).name, .advance k, .advance k, .advance k] = some t := by
    simp [Traffic.run, Traffic.step, Traffic.setSubscriber, Subscriber.next, idle, alive, t]
  refine ⟨t, Runs.of_traffic hrun ?_, rfl, by simp [t, Traffic.setSubscriber]⟩
  simp [Plan.Allows]

end Activity

namespace RegistryLocator

variable {β : Type} [Discovery β] {l : RegistryLocator β} {id : SubscriptionId}
  {sub : Subscription}

/-- What a refresh lists is taken in. -/
theorem refresh_eq (get : l.subscriptions.get? id = some sub) :
    l.refresh id = { l with
      backend := (Discovery.listHealthy l.backend sub.name).2
      subscriptions :=
        l.subscriptions.receive id (Discovery.listHealthy l.backend sub.name).1 } := by
  rw [refresh, get]
  simp only
  cases (Discovery.listHealthy l.backend sub.name).1 <;> rfl

/-- A first load is a hint and a refresh, whatever the registry says to the hint. -/
theorem loadFirst_of_pending (get : l.subscriptions.get? id = some sub)
    (pending : sub.load = .pending) :
    let hinted := (Discovery.subscribe l.backend sub.name).2
    l.loadFirst id = { l with
      backend := (Discovery.listHealthy hinted sub.name).2
      subscriptions := ((l.subscriptions.setLoad id .running).receive id
        (Discovery.listHealthy hinted sub.name).1).setLoad id .done } := by
  intro hinted
  have hrunning : (l.subscriptions.setLoad id .running).get? id =
      some { sub with load := .running } := by
    rw [Subscriptions.setLoad, Subscriptions.get?_update, if_pos rfl, get, Option.map_some]
  rw [loadFirst, get]
  simp only [pending, if_true]
  rw [refresh_eq hrunning]

theorem loadFirst_of_ne (get : l.subscriptions.get? id = some sub) (begun : sub.load ≠ .pending) :
    l.loadFirst id = l := by
  rw [loadFirst, get]
  simp only [if_neg begun]

end RegistryLocator

namespace Subscriptions

variable {t : Subscriptions} {id id' : SubscriptionId} {name : String}

/-- Whoever inserts has the subscription of the name afterwards, which is a new one if there was
none before. -/
theorem get?_insertIfAbsent (t : Subscriptions) (name : String) :
    (t.services[name]? = some (t.insertIfAbsent name).1 ∧ (t.insertIfAbsent name).2 = t) ∨
      t.services[name]? = none ∧ (t.insertIfAbsent name).1 = t.all.size ∧
        (t.insertIfAbsent name).2.services = t.services.insert name t.all.size ∧
        ∀ id, (t.insertIfAbsent name).2.get? id =
          if id = t.all.size then some { name := name } else t.get? id := by
  unfold insertIfAbsent
  cases h : t.services[name]? with
  | some id => exact .inl ⟨rfl, rfl⟩
  | none => exact .inr ⟨rfl, rfl, rfl, fun id => by simp [get?, Array.getElem?_push]⟩

end Subscriptions

namespace Activity

variable {β : Type} [Discovery β] {l : RegistryLocator β} {plan : Plan} {s : Activity} {k : Nat}
  {id : SubscriptionId} {sub : Subscription}

/-- What is asked of a registry, one thing after the other, when the registry answers at once and
by itself. It is in the first state before and in the second one afterwards. -/
inductive Consults : β → List Event → β → Prop where
  | nil (b : β) : Consults b [] b
  | subscribe {b b' : β} {q : Query} {events : List Event}
    (rest : Consults (Discovery.subscribe b q.name).2 events b') :
    Consults b (.hinted q :: .taken q (Discovery.subscribe b q.name).1 :: events) b'
  | listHealthy {b b' : β} {q : Query} {since : Nat} {events : List Event}
    (rest : Consults (Discovery.listHealthy b q.name).2 events b') :
    Consults b (.asked q :: .listed q since (Discovery.listHealthy b q.name).1 :: events) b'
  /-- Nothing is asked by a caller that looks at what is there. -/
  | look {b b' : β} {k : Nat} {candidates : List ServiceInstance} {events : List Event}
    (rest : Consults b events b') : Consults b (.looked k candidates :: events) b'

theorem Consults.append {b₁ b₂ b₃ : β} {events more : List Event} (h : Consults b₁ events b₂)
    (then_ : Consults b₂ more b₃) : Consults b₁ (events ++ more) b₃ := by
  induction h with
  | nil => exact then_
  | subscribe _ ih => exact .subscribe (ih then_)
  | listHealthy _ ih => exact .listHealthy (ih then_)
  | look _ ih => exact .look (ih then_)

/-- A caller that nobody disturbs loads its subscription as a locator does, and asks the registry
what the locator asks it. -/
theorem load_alone (hl : l.subscriptions = s.table)
    (got : s.traffic.subscribers k = .subscribed id) (idle : s.stages (.caller k) = .idle)
    (get : s.table.get? id = some sub) (named : sub.name = (plan.goals k).name)
    (rest : sub.load ≠ .running) :
    ∃ more, Runs plan s (s.turned (.caller k) .returned more (l.loadFirst id).subscriptions) ∧
      Consults l.backend more (l.loadFirst id).backend := by
  cases hload : sub.load with
  | pending =>
    rw [RegistryLocator.loadFirst_of_pending (hl ▸ get) hload, hl, named]
    refine ⟨_, Runs.of_turn (.enter got idle get hload) (finish_entered ?_ _ _ stages_turned_self),
      .subscribe (.listHealthy (.nil _))⟩
    exact got
  | running => exact absurd hload rest
  | done =>
    rw [RegistryLocator.loadFirst_of_ne (hl ▸ get) (by rw [hload]; nofun), hl]
    exact ⟨[], .single (.turn (.arrive got idle get hload)), .nil _⟩

/-- A locator locates by the steps of a caller, with what its registry answers and with its own
balancer. -/
theorem locate_alone {invocation : Invocation} {exclusions : List ServiceInstance}
    (hl : l.subscriptions = s.table) (goal : plan.goals k = .locate invocation exclusions)
    (idle : s.traffic.subscribers k = .idle) (fresh : s.stages (.caller k) = .idle)
    (rest : ∀ id, s.table.services[invocation.targetName]? = some id →
      ∃ sub, s.table.get? id = some sub ∧ sub.name = invocation.targetName ∧
        sub.load ≠ .running) :
    ∃ s' more, Runs plan s s' ∧ s'.table = (l.locate invocation exclusions).2.subscriptions ∧
      s'.history = s.history ++ more ∧
      Consults l.backend more (l.locate invocation exclusions).2.backend ∧
      (s'.traffic.subscribers k = .refused ∧ (l.locate invocation exclusions).1 = none ∨
        s'.stages (.caller k) = .located (l.locate invocation exclusions).1) := by
  have hname : (plan.goals k).name = invocation.targetName := by rw [goal]; rfl
  cases hflag : s.table.destroyed with
  | true =>
    have hlocate : l.locate invocation exclusions = (none, l) := by
      simp [RegistryLocator.locate, RegistryLocator.subscribe, hl, hflag]
    let t := s.traffic.setSubscriber k .refused
    have hrun : s.traffic.run [.begin k invocation.targetName, .advance k] = some t := by
      simp [Traffic.run, Traffic.step, Traffic.setSubscriber, Subscriber.next, idle, hflag, t]
    rw [hlocate]
    refine ⟨_, [], Runs.of_traffic hrun (by simp [Plan.Allows, hname]), hl.symm,
      (List.append_nil _).symm, .nil _, .inl ⟨?_, rfl⟩⟩
    simp [t, Traffic.setSubscriber]
  | false =>
    obtain ⟨t, hgot, htable, hid⟩ := get_subscription plan idle hflag
    rw [hname] at htable hid
    obtain ⟨sub, hget, hsub, hload⟩ : ∃ sub,
        t.table.get? (s.table.insertIfAbsent invocation.targetName).1 = some sub ∧
          sub.name = invocation.targetName ∧ sub.load ≠ .running := by
      rcases s.table.get?_insertIfAbsent invocation.targetName with
        ⟨hsome, hsame⟩ | ⟨-, hnew, -, hall⟩
      · rw [htable, hsame]
        exact rest _ hsome
      · refine ⟨{ name := invocation.targetName }, by rw [htable, hall, if_pos hnew], rfl, ?_⟩
        intro hrunning
        cases hrunning
    let located := { l with subscriptions := t.table }.loadFirst
      (s.table.insertIfAbsent invocation.targetName).1
    have hlocate : l.locate invocation exclusions =
        ((located.selector.select invocation
            (located.subscriptions.snapshot invocation.targetName) exclusions).1,
          { located with balancer := (located.selector.select invocation
            (located.subscriptions.snapshot invocation.targetName) exclusions).2.balancer }) := by
      simp [RegistryLocator.locate, RegistryLocator.subscribe, hl, hflag, located, htable]
    obtain ⟨more, hloaded, hconsults⟩ : ∃ more, Runs plan { s with traffic := t }
        ({ s with traffic := t }.turned (.caller k) .returned more located.subscriptions) ∧
          Consults l.backend more located.backend :=
      load_alone (s := { s with traffic := t }) rfl hid fresh hget (hsub.trans hname.symm) hload
    have hlooked := (hgot.trans hloaded).tail (.turn (.look goal stages_turned_self))
    have hpicked := hlooked.tail
      (.turn (.pick goal stages_turned_self located.balancer))
    rw [hlocate]
    refine ⟨_, more ++ [.looked k (located.subscriptions.snapshot invocation.targetName)],
      hpicked, rfl, ?_, hconsults.append (.look (.nil _)), .inr ?_⟩
    · simp only [history_turned, table_turned, List.append_assoc, List.append_nil]
    · rw [stages_turned_self]
      rfl

/-- A refresher that nobody disturbs ticks as that of a locator does, and asks the registry what
the locator asks it. -/
theorem tick_alone {due : Nat} (hl : l.subscriptions = s.table) (hnow : l.now = s.now)
    (hinterval : l.interval = plan.interval) (get : s.table.get? id = some sub)
    (idle : s.stages (.refresher id) = .idle) (set : sub.refresher = .due due)
    (ready : due ≤ s.now) :
    ∃ more, Runs plan s (s.turned (.refresher id) .idle more (l.tick id due).subscriptions) ∧
      Consults l.backend more (l.tick id due).backend := by
  let next : Refresher := .due (plan.dueAfter s.now due)
  let ticked := s.table.update id fun sub => { sub with refresher := next }
  have hset : ticked.get? id = some { sub with refresher := next } := by
    rw [Subscriptions.get?_update, if_pos rfl, get, Option.map_some]
  have htick : l.tick id due = { l with subscriptions := ticked }.refresh id := by
    simp only [RegistryLocator.tick, hl, hnow, hinterval]
    rfl
  rw [htick, RegistryLocator.refresh_eq hset]
  exact ⟨_, tick_answered get idle set ready _, .listHealthy (.nil _)⟩

/-! ## Callers of one provider -/

/-- A call of the service `greeter`. -/
def greet : Invocation :=
  let codec := CodecOptions.plain .json
  let service : Service :=
    { name := "greeter", client := {}, reference := {}, codec := codec,
      connectRetry := 1, timeoutRetry := 1, methods := ∅ }
  let method : MethodConfig :=
    { name := "greet", param := none, returns := .value, async := false, timeoutMillis := 3000,
      timeoutRetry := 1, connectRetry := 1, codec := codec }
  .ofMethod service method none none

/-- The first caller subscribes to the greeter, and all others locate it. -/
def greetings : Plan where
  goals
    | 0 => .subscribe "greeter"
    | _ + 1 => .locate greet []

theorem name_greetings (k : Nat) : (greetings.goals k).name = "greeter" := by
  cases k <;> rfl

/-- The first two callers have their subscription, and nobody has loaded it. -/
def greeted : Activity :=
  { start with
    traffic := (Traffic.start.run
      [.begin 0 "greeter", .advance 0, .advance 0, .advance 0, .begin 1 "greeter", .advance 1,
        .advance 1, .advance 1]).getD .start }

theorem greeted_reachable : greeted.Reachable greetings := by
  have hrun : start.traffic.run
      [.begin 0 "greeter", .advance 0, .advance 0, .advance 0, .begin 1 "greeter", .advance 1,
        .advance 1, .advance 1] = some greeted.traffic := rfl
  exact Runs.of_traffic hrun (by simp [Plan.Allows, name_greetings])

/-- An interval later the refresher is due, and still nobody has loaded the subscription. -/
def delayed : Activity :=
  let woken := greeted.turned (.refresher 0) .idle []
    (greeted.table.update 0 fun sub => sub.begin 0 30000)
  { woken with now := woken.now + 30000 }

theorem delayed_reachable : delayed.Reachable greetings := by
  have hnew : greeted.table.get? 0 = some { name := "greeter" } := rfl
  exact (greeted_reachable.tail (.turn (.wake hnew rfl))).tail (.pass 30000)

end Activity

end RemoteCall
