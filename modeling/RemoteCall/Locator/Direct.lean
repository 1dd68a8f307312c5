/-
Direct links: a fixed list of instances, with a balancer and statistics of its
own. Nothing is looked up and nothing runs in the background.
-/
import RemoteCall.Locator.Selector
import RemoteCall.Locator.Statistics

namespace RemoteCall

/-- A fixed list of instances. -/
structure DirectLocator where
  instances : List ServiceInstance
  balancer : Balancer := .fresh
  status : StatusBook := ∅

namespace DirectLocator

/-- A link to the instances at the given addresses. -/
def ofAddresses (service : String) (addresses : List String) : Except CallError DirectLocator := do
  let instances ← addresses.mapM (ServiceInstance.ofAddress service)
  return { instances := instances }

/-- The link with another balancer. -/
def withBalancer (d : DirectLocator) (b : Balancer) : DirectLocator :=
  { d with balancer := b }

/-- How the link selects: by group, and then by its balancer. -/
def selector (d : DirectLocator) : Selector :=
  .ofBalancer d.balancer

/-- Picks an instance for a call. -/
def locate (d : DirectLocator) (invocation : Invocation) (exclusions : List ServiceInstance) :
    Option ServiceInstance × DirectLocator :=
  let (picked, selector) := d.selector.select invocation d.instances exclusions
  (picked, { d with balancer := selector.balancer })

/-- Counts the outcome of a send. -/
def feedback (d : DirectLocator) (i : ServiceInstance) (elapsed : Elapsed) (succeeded : Bool) :
    DirectLocator :=
  { d with status := d.status.record i.code elapsed succeeded }

end DirectLocator

end RemoteCall
