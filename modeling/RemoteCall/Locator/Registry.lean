/-
Locating instances through a registry of services.

The first look-up of a provider subscribes to it: the registry is told, the
instances are loaded right away, and a refresher lists them again on a fixed
interval. Every list replaces the one before as a whole; a failed listing leaves
it alone. Once the locator is destroyed nothing is located any more.

A refresher counts its interval from the moment when it first runs, which is when
time next passes. One that comes late by more than `tolerance` is next due a full
interval after the late tick, otherwise a full interval after the time it was due.
-/
import RemoteCall.Locator.Discovery
import RemoteCall.Locator.Selector
import RemoteCall.Locator.Statistics
import RemoteCall.Locator.Subscriptions

namespace RemoteCall

/-- A registry of services that a locator can ask. Each operation may change the registry. -/
class Discovery (β : Type) where
  /-- The healthy instances of a provider; none of an unknown one. -/
  listHealthy : β → String → Except String (List ServiceInstance) × β
  /-- A hint that a provider will be asked for from now on. -/
  subscribe : β → String → Except String Unit × β
  /-- Lets go of what the registry holds for the locator. -/
  destroy : β → β

instance : Discovery MemoryDiscovery where
  listHealthy d name := (.ok (d.listHealthy name), d)
  subscribe d _ := (.ok (), d)
  destroy d := d

/-- A locator over a registry of services. Times are in milliseconds. -/
structure RegistryLocator (β : Type) where
  backend : β
  interval : Nat := 30000
  now : Nat := 0
  balancer : Balancer := .fresh
  status : StatusBook := ∅
  subscriptions : Subscriptions := {}

namespace RegistryLocator

/-- What a caller of a destroyed locator is told. -/
def destroyedError : CallError :=
  .invoke "service locator has been destroyed"

variable {β : Type}

/-- The locator with another balancer. -/
def withBalancer (l : RegistryLocator β) (b : Balancer) : RegistryLocator β :=
  { l with balancer := b }

/-- How the locator selects: by group, and then by its balancer. -/
def selector (l : RegistryLocator β) : Selector :=
  .ofBalancer l.balancer

/-- Lets refreshers that have not run yet run for the first time. -/
def settle (l : RegistryLocator β) : RegistryLocator β :=
  { l with subscriptions := l.subscriptions.beginAll l.now l.interval }

variable [Discovery β]

/-- Lists the instances of a subscription's provider and swaps them in, unless that fails. -/
def refresh (l : RegistryLocator β) (id : SubscriptionId) : RegistryLocator β :=
  match l.subscriptions.get? id with
  | none => l
  | some sub =>
    let (answer, backend) := Discovery.listHealthy l.backend sub.name
    match answer with
    | .ok instances =>
      { l with backend := backend, subscriptions := l.subscriptions.install id instances }
    | .error _ => { l with backend := backend }

/-- Loads a subscription for the first time; a registry that takes no hint is asked all the
same. -/
def loadFirst (l : RegistryLocator β) (id : SubscriptionId) : RegistryLocator β :=
  match l.subscriptions.get? id with
  | none => l
  | some sub =>
    if sub.load = .pending then
      let l := { l with
        backend := (Discovery.subscribe l.backend sub.name).2
        subscriptions := l.subscriptions.setLoad id .running }
      let l := l.refresh id
      { l with subscriptions := l.subscriptions.setLoad id .done }
    else l

/-- Subscribes to a provider, with no one acting in between. -/
def subscribe (l : RegistryLocator β) (name : String) : Except CallError Unit × RegistryLocator β :=
  if l.subscriptions.destroyed then (.error destroyedError, l)
  else
    let (id, subscriptions) := l.subscriptions.insertIfAbsent name
    if subscriptions.destroyed then
      (.error destroyedError, { l with subscriptions := subscriptions.withdraw name id })
    else (.ok (), { l with subscriptions := subscriptions }.loadFirst id)

/-- Picks an instance for a call. -/
def locate (l : RegistryLocator β) (invocation : Invocation) (exclusions : List ServiceInstance) :
    Option ServiceInstance × RegistryLocator β :=
  match l.subscribe invocation.targetName with
  | (.error _, l) => (none, l)
  | (.ok (), l) =>
    let (picked, selector) :=
      l.selector.select invocation (l.subscriptions.snapshot invocation.targetName) exclusions
    (picked, { l with balancer := selector.balancer })

omit [Discovery β] in
/-- Counts the outcome of a send. -/
def feedback (l : RegistryLocator β) (i : ServiceInstance) (elapsed : Elapsed)
    (succeeded : Bool) : RegistryLocator β :=
  { l with status := l.status.record i.code elapsed succeeded }

/-- Stops all refreshers and lets go of the registry, the first time it is asked to. -/
def destroy (l : RegistryLocator β) : RegistryLocator β :=
  match l.subscriptions.markDestroyed with
  | (true, _) => l
  | (false, subscriptions) =>
    { l with
      subscriptions := subscriptions.stopAll
      backend := Discovery.destroy l.backend }

/-! ## Time -/

/-- How late a tick may come and still count as punctual. -/
def tolerance : Nat := 5

/-- One tick of a refresher that was due at `due`. -/
def tick (l : RegistryLocator β) (id : SubscriptionId) (due : Nat) : RegistryLocator β :=
  let next := if due + tolerance < l.now then l.now + l.interval else due + l.interval
  let subscriptions :=
    l.subscriptions.update id fun sub => { sub with refresher := .due next }
  { l with subscriptions := subscriptions }.refresh id

omit [Discovery β] in
/-- The refresher that is due first, up to the time `limit`. -/
def nextDue? (l : RegistryLocator β) (limit : Nat) : Option (Nat × SubscriptionId) :=
  l.subscriptions.all.toList.zipIdx.foldl
    (fun best (sub, id) =>
      match sub.refresher with
      | .due due =>
        if due ≤ limit ∧ sub.closed = false then
          match best with
          | some (earliest, _) => if due < earliest then some (due, id) else best
          | none => some (due, id)
        else best
      | _ => best)
    none

/-- Lets refreshers that are due by `limit` tick in order, at most `fuel` of them. With
`punctual` each ticks at the time it is due, otherwise now. -/
def runDue (punctual : Bool) (limit : Nat) : Nat → RegistryLocator β → RegistryLocator β
  | 0, l => l
  | fuel + 1, l =>
    match l.nextDue? limit with
    | none => l
    | some (due, id) =>
      let l := if punctual then { l with now := max l.now due } else l
      runDue punctual limit fuel (l.tick id due)

omit [Discovery β] in
/-- A bound on the ticks that fall due within a span. -/
def tickBound (l : RegistryLocator β) (span : Nat) : Nat :=
  (span / l.interval + 2) * l.subscriptions.all.size

/-- Lets time pass; every tick comes when it is due. -/
def advance (l : RegistryLocator β) (millis : Nat) : RegistryLocator β :=
  let limit := l.now + millis
  { runDue true limit (l.tickBound millis) l.settle with now := limit }

/-- Moves the clock at once; ticks that fell due in between come now, and so do first runs. -/
def jump (l : RegistryLocator β) (millis : Nat) : RegistryLocator β :=
  let late := { l with now := l.now + millis }.settle
  runDue false late.now (l.tickBound millis) late

end RegistryLocator

end RemoteCall
