/-
Selecting an instance: exclusion, then routing, then balancing.

Excluded instances are recognised by their codes. A router thins out the
candidates for a call; the group router, which always comes first, keeps those
whose metadata names the group that the service was imported with.
-/
import RemoteCall.Invocation
import RemoteCall.Locator.Balancer

namespace RemoteCall

/-- The candidates without the excluded instances. -/
def exclude (candidates exclusions : List ServiceInstance) : List ServiceInstance :=
  candidates.filter fun i => !exclusions.any i.same

/-- The metadata that the group of a service is compared with. -/
def groupKey : String := "group"

/-- Thins out the candidates for a call. -/
abbrev Router := Invocation → List ServiceInstance → List ServiceInstance

/-- An instance belongs to a group; every instance is good enough without one. -/
def inGroup (group : Option String) (i : ServiceInstance) : Bool :=
  match group with
  | none => true
  | some g => i.metadata[groupKey]? == some g

/-- Keeps the instances of the group that the service was imported with. -/
def groupRouter : Router := fun invocation candidates =>
  candidates.filter (inGroup invocation.service.group)

/-- Routers and a balancer. -/
structure Selector where
  routers : List Router
  balancer : Balancer

namespace Selector

/-- The group router in front of a balancer. -/
def ofBalancer (b : Balancer) : Selector :=
  { routers := [groupRouter], balancer := b }

/-- The selector with one more router, behind those it has. -/
def withRouter (s : Selector) (router : Router) : Selector :=
  { s with routers := s.routers ++ [router] }

/-- The candidates that are left for a call. -/
def eligible (s : Selector) (invocation : Invocation)
    (candidates exclusions : List ServiceInstance) : List ServiceInstance :=
  s.routers.foldl (fun routed router => router invocation routed) (exclude candidates exclusions)

/-- Picks an instance for a call. -/
def select (s : Selector) (invocation : Invocation)
    (candidates exclusions : List ServiceInstance) : Option ServiceInstance × Selector :=
  let (picked, balancer) :=
    s.balancer.select invocation.targetName (s.eligible invocation candidates exclusions)
  (picked, { s with balancer := balancer })

end Selector

end RemoteCall
