/-
Subscribing to a registry locator and destroying it, with everyone else acting in between.

A subscribe looks at the flag, inserts a subscription unless there is one, looks at the
flag again, and cleans up if that is set by now: it takes the name out of the table, and
then notifies the handle that it holds. A destroy sets the flag and then visits the names
one by one. `Traffic` is the subscriptions with any number of both on their way, and
`Traffic.step` lets one of them, or the loading of instances, take its next step.

* `RegistryLocator.subscribe_alone`, `Traffic.destroy_alone` — with no one acting in
  between, these steps are what the locator does.
-/
import Mathlib.Logic.Function.Basic
import RemoteCall.Locator.Registry

namespace RemoteCall

/-! ## Subscribers -/

/-- How far a subscribe has come. -/
inductive Subscriber where
  | idle
  /-- It has begun, and has not looked at the flag yet. -/
  | begun (name : String)
  /-- It found the locator alive. -/
  | admitted (name : String)
  /-- It has the handle of the subscription that stands under the name. -/
  | holding (name : String) (id : SubscriptionId)
  /-- It found the locator destroyed. -/
  | withdrawing (name : String) (id : SubscriptionId)
  /-- It has taken the name out of the table. -/
  | unlisted (id : SubscriptionId)
  | refused
  | subscribed (id : SubscriptionId)
deriving DecidableEq, Repr

namespace Subscriber

/-- The next step of a subscribe that is on its way. -/
def next (t : Subscriptions) : Subscriber → Option (Subscriptions × Subscriber)
  | begun name => some (t, if t.destroyed then refused else admitted name)
  | admitted name => some ((t.insertIfAbsent name).2, holding name (t.insertIfAbsent name).1)
  | holding name id => some (t, if t.destroyed then withdrawing name id else subscribed id)
  | withdrawing name id => some (t.removeName name, unlisted id)
  | unlisted id => some (t.notify id, refused)
  | _ => none

/-- The handle of a subscribe between its insertion and the end of its clean-up. -/
def handle? : Subscriber → Option SubscriptionId
  | holding _ id => some id
  | withdrawing _ id => some id
  | unlisted id => some id
  | _ => none

/-- The name that such a subscribe would take out of the table. -/
def name? : Subscriber → Option String
  | holding name _ => some name
  | withdrawing name _ => some name
  | _ => none

/-- The subscribe has done nothing to the subscriptions, and is not going to if it finds the
flag set. -/
def harmless : Subscriber → Bool
  | idle => true
  | begun _ => true
  | refused => true
  | _ => false

/-- Steps of a subscribe with no one acting in between. -/
inductive Alone : Subscriptions × Subscriber → Subscriptions × Subscriber → Prop where
  | refl (state : Subscriptions × Subscriber) : Alone state state
  | step {t : Subscriptions} {s : Subscriber} {state after : Subscriptions × Subscriber}
    (next : s.next t = some state) (rest : Alone state after) : Alone (t, s) after

theorem handle?_of_name? {s : Subscriber} {name : String} (h : s.name? = some name) :
    ∃ id, s.handle? = some id := by
  cases s with
  | holding _ id => exact ⟨id, rfl⟩
  | withdrawing _ id => exact ⟨id, rfl⟩
  | _ => cases h

end Subscriber

/-! ## Destroyers -/

/-- How far a destroy has come. -/
inductive Destroyer where
  | idle
  /-- It set the flag, and has yet to visit the names. -/
  | sweeping (left : List String)
  | finished
  /-- The flag was set before, so there is nothing to do. -/
  | skipped
deriving DecidableEq, Repr

namespace Destroyer

/-- The destroy is the one that stops the refreshers. -/
def sweeps : Destroyer → Bool
  | sweeping _ => true
  | finished => true
  | _ => false

end Destroyer

/-! ## Steps -/

/-- What loading and refreshing do to the subscriptions. -/
inductive Chore where
  | begin (now period : Nat)
  | load (id : SubscriptionId) (state : LoadState)
  | tick (id : SubscriptionId) (due : Nat)
  | install (id : SubscriptionId) (instances : List ServiceInstance)

/-- The subscriptions after a chore. -/
def Chore.run (t : Subscriptions) : Chore → Subscriptions
  | begin now period => t.beginAll now period
  | load id state => t.setLoad id state
  | tick id due => t.update id fun sub => { sub with refresher := .due due }
  | install id instances => t.install id instances

/-- The subscriptions, and everyone who acts on them. -/
structure Traffic where
  table : Subscriptions
  subscribers : Nat → Subscriber
  destroyers : Nat → Destroyer

/-- One step of someone. -/
inductive Traffic.Action where
  /-- A subscribe begins. -/
  | begin (k : Nat) (name : String)
  /-- A subscribe takes its next step. -/
  | advance (k : Nat)
  /-- A destroy sets the flag. -/
  | destroy (d : Nat)
  /-- A destroy visits a name. It may or may not come across names that were not in the table
  when it set the flag. -/
  | sweep (d : Nat) (name : String)
  /-- A destroy has visited all names that it has to. -/
  | finish (d : Nat)
  | chore (chore : Chore)

namespace Traffic

/-- Nobody has subscribed to anything. -/
def start : Traffic :=
  { table := {}, subscribers := fun _ => .idle, destroyers := fun _ => .idle }

/-- Says how far a subscribe has come. -/
def setSubscriber (s : Traffic) (k : Nat) (now : Subscriber) : Traffic :=
  { s with subscribers := Function.update s.subscribers k now }

/-- Says how far a destroy has come. -/
def setDestroyer (s : Traffic) (d : Nat) (now : Destroyer) : Traffic :=
  { s with destroyers := Function.update s.destroyers d now }

/-- Takes a step, if it can be taken. -/
def step (s : Traffic) : Action → Option Traffic
  | .begin k name =>
    match s.subscribers k with
    | .idle => some (s.setSubscriber k (.begun name))
    | _ => none
  | .advance k =>
    ((s.subscribers k).next s.table).map fun (table, now) =>
      { s with table := table }.setSubscriber k now
  | .destroy d =>
    match s.destroyers d, s.table.markDestroyed with
    | .idle, (true, _) => some (s.setDestroyer d .skipped)
    | .idle, (false, table) =>
      some ({ s with table := table }.setDestroyer d (.sweeping table.services.keys))
    | _, _ => none
  | .sweep d name =>
    match s.destroyers d with
    | .sweeping left =>
      some ({ s with table := s.table.stop name }.setDestroyer d
        (.sweeping (left.filter (· ≠ name))))
    | _ => none
  | .finish d =>
    match s.destroyers d with
    | .sweeping [] => some (s.setDestroyer d .finished)
    | _ => none
  | .chore chore => some { s with table := chore.run s.table }

/-- Takes steps one after the other. -/
def run (s : Traffic) : List Action → Option Traffic
  | [] => some s
  | action :: actions => (s.step action).bind (·.run actions)

/-- Some order of steps leads here. -/
def Reachable (s : Traffic) : Prop := ∃ actions, start.run actions = some s

/-- A destroy has visited all names that it has to. -/
def Swept (s : Traffic) : Prop := ∃ d, s.destroyers d = .finished

/-- No subscribe is between its insertion and the end of its clean-up. -/
def Settled (s : Traffic) : Prop := ∀ k, (s.subscribers k).handle? = none

theorem run_append (s : Traffic) (first more : List Action) :
    s.run (first ++ more) = (s.run first).bind (·.run more) := by
  induction first generalizing s with
  | nil => rfl
  | cons action first ih =>
    rw [List.cons_append, run, run, Option.bind_assoc]
    exact Option.bind_congr fun middle _ => ih middle

/-- Who can take a step, and what it does. -/
inductive Moves (s : Traffic) : Action → Traffic → Prop where
  | begin {k : Nat} {name : String} (idle : s.subscribers k = .idle) :
    s.Moves (.begin k name) (s.setSubscriber k (.begun name))
  | advance {k : Nat} {table : Subscriptions} {now : Subscriber}
    (next : (s.subscribers k).next s.table = some (table, now)) :
    s.Moves (.advance k) ({ s with table := table }.setSubscriber k now)
  | skip {d : Nat} (idle : s.destroyers d = .idle) (flag : s.table.destroyed = true) :
    s.Moves (.destroy d) (s.setDestroyer d .skipped)
  | destroy {d : Nat} (idle : s.destroyers d = .idle) (alive : s.table.destroyed = false) :
    s.Moves (.destroy d) ({ s with table := { s.table with destroyed := true } }.setDestroyer d
      (.sweeping s.table.services.keys))
  | sweep {d : Nat} {left : List String} (name : String)
    (sweeping : s.destroyers d = .sweeping left) :
    s.Moves (.sweep d name) ({ s with table := s.table.stop name }.setDestroyer d
      (.sweeping (left.filter (· ≠ name))))
  | finish {d : Nat} (done : s.destroyers d = .sweeping []) :
    s.Moves (.finish d) (s.setDestroyer d .finished)
  | chore (chore : Chore) : s.Moves (.chore chore) { s with table := chore.run s.table }

theorem moves_of_step {s s' : Traffic} {action : Action} (h : s.step action = some s') :
    s.Moves action s' := by
  cases action with
  | begin k name =>
    cases hk : s.subscribers k with
    | idle =>
      simp only [step, hk, Option.some.injEq] at h
      exact h ▸ .begin hk
    | _ => simp [step, hk] at h
  | advance k =>
    obtain ⟨⟨table, now⟩, hnext, rfl⟩ := Option.map_eq_some_iff.mp h
    exact .advance hnext
  | destroy d =>
    cases hd : s.destroyers d with
    | idle =>
      cases hflag : s.table.destroyed with
      | true =>
        simp only [step, hd, Subscriptions.markDestroyed, hflag, Option.some.injEq] at h
        exact h ▸ .skip hd hflag
      | false =>
        simp only [step, hd, Subscriptions.markDestroyed, hflag, Option.some.injEq] at h
        exact h ▸ .destroy hd hflag
    | _ => simp [step, hd] at h
  | sweep d name =>
    cases hd : s.destroyers d with
    | sweeping left =>
      simp only [step, hd, Option.some.injEq] at h
      exact h ▸ .sweep name hd
    | _ => simp [step, hd] at h
  | finish d =>
    cases hd : s.destroyers d with
    | sweeping left =>
      cases left with
      | nil =>
        simp only [step, hd, Option.some.injEq] at h
        exact h ▸ .finish hd
      | cons name left => simp [step, hd] at h
    | _ => simp [step, hd] at h
  | chore chore =>
    simp only [step, Option.some.injEq] at h
    exact h ▸ .chore chore

/-- What every step preserves holds wherever steps lead. -/
theorem run_preserves {P : Traffic → Prop} (preserves : ∀ s action s', P s →
    s.step action = some s' → P s') {actions : List Action} {s s' : Traffic} (h : P s)
    (hrun : s.run actions = some s') : P s' := by
  induction actions generalizing s with
  | nil =>
    cases hrun
    exact h
  | cons action actions ih =>
    obtain ⟨middle, hstep, hrest⟩ := Option.bind_eq_some_iff.mp hrun
    exact ih (preserves s action middle h hstep) hrest

end Traffic

/-! ## With no one acting in between -/

@[simp] theorem Subscriptions.destroyed_insertIfAbsent (t : Subscriptions) (name : String) :
    (t.insertIfAbsent name).2.destroyed = t.destroyed := by
  unfold Subscriptions.insertIfAbsent
  cases t.services[name]? <;> rfl

/-- A locator subscribes by the steps of a subscribe, and then loads the subscription. -/
theorem RegistryLocator.subscribe_alone {β : Type} [Discovery β] (l : RegistryLocator β)
    (name : String) :
    (∃ t, Subscriber.Alone (l.subscriptions, .begun name) (t, .refused) ∧
      l.subscribe name = (.error destroyedError, { l with subscriptions := t })) ∨
    ∃ t id, Subscriber.Alone (l.subscriptions, .begun name) (t, .subscribed id) ∧
      l.subscribe name = (.ok (), { l with subscriptions := t }.loadFirst id) := by
  cases hd : l.subscriptions.destroyed with
  | true =>
    refine .inl ⟨l.subscriptions, .step rfl ?_, by simp [subscribe, hd]⟩
    rw [hd]
    exact .refl _
  | false =>
    refine .inr ⟨(l.subscriptions.insertIfAbsent name).2,
      (l.subscriptions.insertIfAbsent name).1, .step rfl ?_, by simp [subscribe, hd]⟩
    rw [hd]
    refine .step rfl (.step rfl ?_)
    rw [Subscriptions.destroyed_insertIfAbsent, hd]
    exact .refl _

namespace Traffic

theorem run_sweeps (d : Nat) (names : List String) :
    ∀ (s : Traffic) (left : List String), s.destroyers d = .sweeping left →
      s.run (names.map (.sweep d)) =
        some ({ s with table := names.foldl Subscriptions.stop s.table }.setDestroyer d
          (.sweeping (left.filter (· ∉ names)))) := by
  induction names with
  | nil =>
    intro s left h
    have hleft : left.filter (· ∉ []) = left := List.filter_eq_self.mpr (by simp)
    rw [hleft, ← h]
    simp [run, setDestroyer]
  | cons name names ih =>
    intro s left h
    have hfilter : (left.filter (· ≠ name)).filter (· ∉ names) =
        left.filter (· ∉ name :: names) := by
      rw [List.filter_filter]
      exact List.filter_congr fun n _ => by simp [Bool.and_comm]
    rw [List.map_cons, run, step]
    simp only [h, Option.bind_some]
    rw [ih _ (left.filter (· ≠ name)) (by simp [setDestroyer]), hfilter]
    simp [setDestroyer]

/-- A locator is destroyed by the steps of a destroy. -/
theorem destroy_alone {β : Type} [Discovery β] {s : Traffic} {l : RegistryLocator β} {d : Nat}
    (hl : l.subscriptions = s.table) (hd : s.destroyers d = .idle)
    (alive : s.table.destroyed = false) :
    ∃ s', s.run (.destroy d :: (s.table.services.keys.map (.sweep d) ++ [.finish d])) = some s' ∧
      s'.table = l.destroy.subscriptions ∧ s'.Swept := by
  have hnone : s.table.services.keys.filter (· ∉ s.table.services.keys) = [] := by simp
  let swept : Subscriptions := s.table.services.keys.foldl Subscriptions.stop
    { s.table with destroyed := true }
  refine ⟨{ s with table := swept }.setDestroyer d .finished, ?_, ?_, d, ?_⟩
  · rw [run, step]
    simp only [hd, Subscriptions.markDestroyed, alive, Option.bind_some]
    rw [run_append, run_sweeps d _ _ s.table.services.keys (by simp [setDestroyer]), hnone]
    simp [run, step, setDestroyer, swept]
  · simp [RegistryLocator.destroy, hl, Subscriptions.markDestroyed, alive, setDestroyer,
      Subscriptions.stopAll, swept]
  · simp [setDestroyer]

end Traffic

end RemoteCall
