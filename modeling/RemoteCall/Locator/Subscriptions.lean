/-
The subscriptions of a registry locator, one atomic step at a time.

A subscription belongs to a provider and holds the latest list of its instances.
Its refresher listens until its close handle is notified. The table of services
tells which subscription is the current one of a name; subscriptions that were
taken out of the table stay in `all`, because callers and refreshers may still
hold them. Subscribing is not one step but several (look at the flag, insert if
absent, look again, load), and other callers can act in between.
-/
import RemoteCall.Instance

namespace RemoteCall

/-- How far the first load of a subscription has come. -/
inductive LoadState where
  | pending
  | running
  | done
deriving DecidableEq, Repr

/-- How far the refresher of a subscription has come. -/
inductive Refresher where
  /-- It has not run yet; its interval counts from the moment when it does. -/
  | starting
  /-- It is due at a time, in milliseconds. -/
  | due (time : Nat)
  /-- It gave up as soon as it ran. -/
  | dead
deriving DecidableEq, Repr

/-- What is known about the instances of a provider. -/
structure Subscription where
  name : String
  snapshot : List ServiceInstance := []
  load : LoadState := .pending
  /-- The close handle has been notified. -/
  closed : Bool := false
  refresher : Refresher := .starting

/-- The refresher of a subscription is at work. -/
def Subscription.isRefreshing (sub : Subscription) : Bool :=
  sub.refresher != .dead && !sub.closed

/-- Lets the refresher of a subscription run for the first time; a period of zero is the end of
it. -/
def Subscription.begin (sub : Subscription) (now period : Nat) : Subscription :=
  match sub.refresher with
  | .starting => { sub with refresher := if period = 0 then .dead else .due (now + period) }
  | _ => sub

/-- The place of a subscription in the order in which they were made. -/
abbrev SubscriptionId := Nat

/-- All subscriptions and the table of the current ones. -/
structure Subscriptions where
  destroyed : Bool := false
  services : Table SubscriptionId := ∅
  all : Array Subscription := #[]

namespace Subscriptions

/-- The subscription with an identity. -/
def get? (s : Subscriptions) (id : SubscriptionId) : Option Subscription :=
  s.all[id]?

/-- Changes one subscription. -/
def update (s : Subscriptions) (id : SubscriptionId) (change : Subscription → Subscription) :
    Subscriptions :=
  { s with all := s.all.modify id change }

/-- The current subscription of a name; one with a refresher of its own is inserted if there is
none. -/
def insertIfAbsent (s : Subscriptions) (name : String) : SubscriptionId × Subscriptions :=
  match s.services[name]? with
  | some id => (id, s)
  | none =>
    (s.all.size, { s with
      services := s.services.insert name s.all.size
      all := s.all.push { name := name } })

/-- Notifies the close handle of a subscription. -/
def notify (s : Subscriptions) (id : SubscriptionId) : Subscriptions :=
  s.update id fun sub => { sub with closed := true }

/-- Takes whatever stands under a name out of the table. -/
def removeName (s : Subscriptions) (name : String) : Subscriptions :=
  { s with services := s.services.erase name }

/-- Cleans up after a subscribe that found the locator destroyed: removes the name and notifies
the handle that the caller holds. -/
def withdraw (s : Subscriptions) (name : String) (id : SubscriptionId) : Subscriptions :=
  (s.removeName name).notify id

/-- Sets the flag; also whether it was set before. -/
def markDestroyed (s : Subscriptions) : Bool × Subscriptions :=
  (s.destroyed, { s with destroyed := true })

/-- Notifies the subscription that stands under a name and takes it out of the table. -/
def stop (s : Subscriptions) (name : String) : Subscriptions :=
  match s.services[name]? with
  | none => s
  | some id => (s.notify id).removeName name

/-- Stops everything in the table. -/
def stopAll (s : Subscriptions) : Subscriptions :=
  s.services.keys.foldl stop s

/-- Lets all refreshers that have not run yet run for the first time. -/
def beginAll (s : Subscriptions) (now period : Nat) : Subscriptions :=
  { s with all := s.all.map fun sub => sub.begin now period }

/-- Swaps in a new list of instances. -/
def install (s : Subscriptions) (id : SubscriptionId) (instances : List ServiceInstance) :
    Subscriptions :=
  s.update id fun sub => { sub with snapshot := instances }

/-- Says how far the first load has come. -/
def setLoad (s : Subscriptions) (id : SubscriptionId) (load : LoadState) : Subscriptions :=
  s.update id fun sub => { sub with load := load }

/-- The instances of a provider as they were last listed; none when it is not subscribed. -/
def snapshot (s : Subscriptions) (name : String) : List ServiceInstance :=
  (((s.services[name]?).bind s.get?).map (·.snapshot)).getD []

end Subscriptions

end RemoteCall
