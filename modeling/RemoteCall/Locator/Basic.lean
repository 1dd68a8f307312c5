/-
What a client needs of a locator.

A locator picks an instance for a call, hears how every send went, and can be
destroyed. Direct links and registry locators are locators; so is a choice
between two.
-/
import RemoteCall.Locator.Direct
import RemoteCall.Locator.Registry
import RemoteCall.Reply

namespace RemoteCall

/-- Locates instances for calls. Each operation may change the locator. -/
class Locator (L : Type) where
  /-- Picks an instance that is none of the excluded ones. -/
  locate : L → Invocation → List ServiceInstance → Option ServiceInstance × L
  /-- Hears what a send to an instance came to, and after which time. -/
  feedback : L → ServiceInstance → Outcome → Elapsed → L
  /-- Lets go of everything. -/
  destroy : L → L

/-- A call succeeded if there is a reply, whatever it says. -/
def succeeded : Outcome → Bool
  | .ok _ => true
  | .error _ => false

instance : Locator DirectLocator where
  locate := DirectLocator.locate
  feedback l i outcome elapsed := l.feedback i elapsed (succeeded outcome)
  destroy l := l

instance {β : Type} [Discovery β] : Locator (RegistryLocator β) where
  locate := RegistryLocator.locate
  feedback l i outcome elapsed := l.feedback i elapsed (succeeded outcome)
  destroy := RegistryLocator.destroy

instance {L M : Type} [Locator L] [Locator M] : Locator (L ⊕ M) where
  locate
    | .inl l, invocation, exclusions =>
      let (picked, l) := Locator.locate l invocation exclusions
      (picked, .inl l)
    | .inr m, invocation, exclusions =>
      let (picked, m) := Locator.locate m invocation exclusions
      (picked, .inr m)
  feedback
    | .inl l, i, outcome, elapsed => .inl (Locator.feedback l i outcome elapsed)
    | .inr m, i, outcome, elapsed => .inr (Locator.feedback m i outcome elapsed)
  destroy
    | .inl l => .inl (Locator.destroy l)
    | .inr m => .inr (Locator.destroy m)

end RemoteCall
