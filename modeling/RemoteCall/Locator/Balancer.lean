/-
Balancers: which of several candidates gets the next call.

The round robin balancer has one counter per name, which starts at zero, goes up
with every pick among two or more candidates and wraps around with the machine
word. The random balancer takes its numbers from a sequence of draws that is
given to it. A balancer of one's own may go by everything that it was asked so
far. None is touched by a choice of at most one candidate.
-/
import RemoteCall.Instance
import RemoteCall.Text.Trim

namespace RemoteCall

/-- A name and the candidates among which a balancer is asked to pick for it. -/
abbrev Question := String × List ServiceInstance

/-- A balancer with its state. -/
inductive Balancer where
  | roundRobin (counters : Table UInt64)
  /-- The next draw is the number at zero. -/
  | random (draws : Nat → Nat)
  /-- Any other way to pick one of the candidates; the latest question comes first. -/
  | custom (choose : List Question → Nat) (asked : List Question)

namespace Balancer

/-- A round robin balancer that has not picked yet. -/
def fresh : Balancer := .roundRobin ∅

/-- The picks of the balancer are drawn. -/
def isRandom : Balancer → Bool
  | .random _ => true
  | _ => false

/-- The counter of a name. -/
def counter (counters : Table UInt64) (name : String) : UInt64 :=
  (counters[name]?).getD 0

/-- The number that decides about a pick. -/
def number : Balancer → Question → Nat
  | .roundRobin counters, (name, _) => (counter counters name).toNat
  | .random draws, _ => draws 0
  | .custom choose asked, question => choose (question :: asked)

/-- The balancer after a pick. -/
def advance : Balancer → Question → Balancer
  | .roundRobin counters, (name, _) =>
    .roundRobin (counters.insert name (counter counters name + 1))
  | .random draws, _ => .random fun n => draws (n + 1)
  | .custom choose asked, question => .custom choose (question :: asked)

/-- Picks among two or more candidates. -/
def pick (b : Balancer) (name : String) (candidates : List ServiceInstance) :
    Option ServiceInstance × Balancer :=
  (candidates[b.number (name, candidates) % candidates.length]?, b.advance (name, candidates))

/-- Picks a candidate: none of none, and the only one of one. -/
def select (b : Balancer) (name : String) (candidates : List ServiceInstance) :
    Option ServiceInstance × Balancer :=
  match candidates with
  | [] => (none, b)
  | [only] => (some only, b)
  | _ => b.pick name candidates

/-- The names of the round robin balancer. -/
def roundRobinNames : List String := ["roundrobin", "round_robin", "round-robin"]

/-- A fresh balancer of a name, in any ASCII case and with any white space around it. -/
def named? (name : String) (draws : Nat → Nat) : Option Balancer :=
  let key := Text.lower (Text.trim name)
  if key ∈ roundRobinNames then some fresh
  else if key = "random" then some (.random draws)
  else none

end Balancer

end RemoteCall
