/-
Who closes a client, and what becomes of its locator.

Any number of closes may be on their way. Marking the client closed also tells whether it was, so
exactly one of them finds it open; this one alone goes on to the shared locator, and nobody else
destroys that.

* `Running.Tally` — who was the first to close, and how often the locator was destroyed.
-/
import RemoteCall.Proofs.Client.Running

namespace RemoteCall

/-! ## One close -/

namespace Closer

variable {located : Bool} {k : Nat} {closer closer' : Closer} {deed : Deed}

/-- The close was the first to mark the client. -/
def first : Closer → Bool
  | .swapped first => first
  | .destroying => true
  | .closed first => first
  | .abandoned => true
  | .idle => false

/-- How often the first close has destroyed the locator, if there is one. -/
def destroys (located : Bool) : Closer → Nat
  | .destroying => if located then 1 else 0
  | .closed true => if located then 1 else 0
  | .abandoned => if located then 1 else 0
  | _ => 0

theorem destroys_le (located : Bool) (closer : Closer) : closer.destroys located ≤ 1 := by
  cases located <;> unfold destroys <;> split <;> decide

namespace Next

theorem first_eq (next : Next located k closer deed closer') : closer'.first = closer.first := by
  cases next <;> rfl

theorem ne_idle (next : Next located k closer deed closer') : closer ≠ .idle := by
  cases next <;> intro h <;> cases h

/-- Only the first close destroys the locator. -/
theorem of_destroyed (next : Next located k closer deed closer')
    (destroyed : deed.isDestroyed = true) : closer.first = true ∧ deed = .destroyed k := by
  cases next with
  | destroy _ => exact ⟨rfl, rfl⟩
  | _ => cases destroyed

theorem destroys_eq (next : Next located k closer deed closer') (first : closer.first = true) :
    closer'.destroys located = closer.destroys located + if deed.isDestroyed then 1 else 0 := by
  cases next with
  | destroy locator =>
    subst locator
    rfl
  | bare bare =>
    subst bare
    rfl
  | late => cases first
  | _ => rfl

end Next

end Closer

namespace Running

variable {L W : Type} [Locator L] {shared : Option L} {r r' : Running L W} {deeds : List Deed}
  {deed : Deed} {k : Nat} {closer : Closer}

/-! ## All of them -/

/-- No call at work destroys the client's locator. -/
theorem Works.handled {network after : Network L W} {link : Option Nat} {work : Work}
    (works : Works network link work after) :
    Option.Rel (Handled 0) network.shared after.shared := by
  cases works with
  | @locate invocation exclusions =>
    cases link with
    | some place =>
      have hkept : (network.locate (some place) invocation exclusions).2.shared =
          network.shared := by
        unfold Network.locate
        simp only
        cases network.links[place]? <;> rfl
      rw [hkept]
      exact Handled.rel_refl network.shared
    | none =>
      unfold Network.locate
      cases hshared : network.shared with
      | none =>
        rw [hshared]
        exact .none
      | some locator => exact .some ((Handled.refl locator).locate invocation exclusions)
  | @hear node outcome elapsed =>
    cases link with
    | some place => exact Handled.rel_refl network.shared
    | none =>
      unfold Network.feedback
      cases network.shared with
      | none => exact .none
      | some locator => exact .some ((Handled.refl locator).feedback node outcome elapsed)
  | send used => exact used
  | intercept used => exact used

/-- Destroying the client's locator destroys it once. -/
theorem handled_destroyLocator (c : Client L W) :
    Option.Rel (Handled 1) c.network.shared c.destroyLocator.network.shared := by
  unfold Client.destroyLocator
  cases hshared : c.network.shared with
  | none => exact .none
  | some locator => exact .some (Handled.refl locator).destroy

/-- Who has closed the client, and what came of it. -/
structure Tally (shared : Option L) (r : Running L W) (deeds : List Deed) : Prop where
  /-- The locator was destroyed as often as closes have said so. -/
  locator : Option.Rel (Handled (deeds.countP Deed.isDestroyed)) shared r.client.network.shared
  opened : r.client.closed = false →
    (∀ k, r.closers k = .idle) ∧ deeds.countP Deed.isDestroyed = 0
  first : r.client.closed = true → ∃ k, (r.closers k).first = true
  unique : ∀ k k', (r.closers k).first = true → (r.closers k').first = true → k = k'
  /-- Only the first close has done so. -/
  count : ∀ k, (r.closers k).first = true →
    deeds.countP Deed.isDestroyed = (r.closers k).destroys shared.isSome
  /-- The first close is the one that marked the client before all others. -/
  earliest : ∀ k, (r.closers k).first = true → deeds.find? Deed.isSwapped = some (.swapped k)
  marked : ∀ k, .swapped k ∈ deeds → r.client.closed = true
  destroyed : ∀ k, .destroyed k ∈ deeds → (r.closers k).first = true

namespace Tally

theorem closed_of_ne_idle (h : Tally shared r deeds) (busy : r.closers k ≠ .idle) :
    r.client.closed = true := by
  cases hclosed : r.client.closed with
  | true => rfl
  | false => exact absurd ((h.opened hclosed).1 k) busy

/-- A step that is not one of a close. -/
theorem of_other (h : Tally shared r deeds)
    (used : Option.Rel (Handled 0) r.client.network.shared r'.client.network.shared)
    (closed : r'.client.closed = r.client.closed) (closers : r'.closers = r.closers)
    (other : deed.isDestroyed = false) (unmarked : ∀ k, deed ≠ .swapped k) :
    Tally shared r' (deeds ++ [deed]) where
  locator := by
    rw [List.countP_append, List.countP_singleton, other]
    exact Handled.rel_trans h.locator used
  opened := by
    rw [closed, closers, List.countP_append, List.countP_singleton, other]
    exact h.opened
  first := by
    rw [closed, closers]
    exact h.first
  unique := by
    rw [closers]
    exact h.unique
  count := by
    rw [closers, List.countP_append, List.countP_singleton, other]
    exact h.count
  earliest := by
    rw [closers]
    intro k hk
    rw [List.find?_append, h.earliest k hk, Option.some_or]
  marked := by
    rw [closed]
    intro k hk
    rcases List.mem_append.mp hk with hk | hk
    · exact h.marked k hk
    · exact absurd (List.mem_singleton.mp hk).symm (unmarked k)
  destroyed := by
    rw [closers]
    intro k hk
    rcases List.mem_append.mp hk with hk | hk
    · exact h.destroyed k hk
    · rw [← List.mem_singleton.mp hk] at other
      cases other

theorem swap (h : Tally shared r deeds) (idle : r.closers k = .idle)
    (client : r'.client = r.client.markClosed.2)
    (closers : r'.closers = Function.update r.closers k (.swapped !r.client.closed)) :
    Tally shared r' (deeds ++ [.swapped k]) := by
  have hclosed : r'.client.closed = true := by
    rw [client]
    rfl
  have hcount : (deeds ++ [Deed.swapped k]).countP Deed.isDestroyed =
      deeds.countP Deed.isDestroyed := by
    rw [List.countP_append, List.countP_singleton]
    rfl
  have hself : r'.closers k = .swapped !r.client.closed := by
    rw [closers, Function.update_self]
  have hother : ∀ k', k' ≠ k → r'.closers k' = r.closers k' := by
    intro k' hne
    rw [closers, Function.update_of_ne hne]
  have hkept : ∀ k', (r.closers k').first = true → r'.closers k' = r.closers k' := by
    intro k' hfirst
    refine hother k' ?_
    rintro rfl
    rw [idle] at hfirst
    cases hfirst
  have hnew : ∀ k', (r'.closers k').first = true →
      (r.closers k').first = true ∨ k' = k ∧ r.client.closed = false := by
    intro k' hfirst
    by_cases heq : k' = k
    · rw [heq, hself] at hfirst
      exact .inr ⟨heq, by simpa [Closer.first] using hfirst⟩
    · rw [hother k' heq] at hfirst
      exact .inl hfirst
  have hnone : r.client.closed = false → ∀ k', (r.closers k').first ≠ true := by
    intro hopen k' hfirst
    rw [(h.opened hopen).1 k'] at hfirst
    cases hfirst
  refine ⟨?_, ?_, ?_, ?_, ?_, ?_, fun _ _ => hclosed, ?_⟩
  · rw [client, hcount]
    exact h.locator
  · intro hopen
    rw [hclosed] at hopen
    cases hopen
  · intro _
    cases hbefore : r.client.closed with
    | true =>
      obtain ⟨k', hk'⟩ := h.first hbefore
      exact ⟨k', by rw [hkept k' hk', hk']⟩
    | false =>
      refine ⟨k, ?_⟩
      rw [hself, hbefore]
      rfl
  · intro k' k'' hk' hk''
    rcases hnew k' hk' with hold | ⟨rfl, hopen⟩
    · rcases hnew k'' hk'' with hold' | ⟨-, hopen⟩
      · exact h.unique k' k'' hold hold'
      · exact absurd hold (hnone hopen k')
    · rcases hnew k'' hk'' with hold' | ⟨rfl, -⟩
      · exact absurd hold' (hnone hopen k'')
      · rfl
  · intro k' hk'
    rw [hcount]
    rcases hnew k' hk' with hold | ⟨rfl, hopen⟩
    · rw [hkept k' hold]
      exact h.count k' hold
    · rw [(h.opened hopen).2, hself]
      rfl
  · intro k' hk'
    rw [List.find?_append]
    rcases hnew k' hk' with hold | ⟨rfl, hopen⟩
    · rw [h.earliest k' hold, Option.some_or]
    · have hnobody : deeds.find? Deed.isSwapped = none := by
        refine List.find?_eq_none.mpr fun d hd hswapped => ?_
        cases d with
        | swapped other =>
          have hmarked := h.marked other hd
          rw [hopen] at hmarked
          cases hmarked
        | _ => cases hswapped
      rw [hnobody]
      rfl
  · intro k' hk'
    rcases List.mem_append.mp hk' with hk' | hk'
    · have hfirst := h.destroyed k' hk'
      rw [hkept k' hfirst, hfirst]
    · cases List.mem_singleton.mp hk'

theorem close (h : Tally shared r deeds)
    (next : Closer.Next r.client.network.shared.isSome k (r.closers k) deed closer)
    (client : r'.client = if deed.isDestroyed then r.client.destroyLocator else r.client)
    (closers : r'.closers = Function.update r.closers k closer) :
    Tally shared r' (deeds ++ [deed]) := by
  rw [Handled.isSome_eq h.locator] at next
  have hclosed : r.client.closed = true := h.closed_of_ne_idle next.ne_idle
  have hsame : r'.client.closed = r.client.closed := by
    rw [client]
    split <;> rfl
  have hfirst : ∀ k', (r'.closers k').first = (r.closers k').first := by
    intro k'
    rw [closers, Function.update_apply]
    split
    · next heq => rw [heq, next.first_eq]
    · rfl
  refine ⟨?_, ?_, ?_, ?_, ?_, ?_, ?_, ?_⟩
  · rw [List.countP_append, List.countP_singleton, client]
    split
    · exact Handled.rel_trans h.locator (handled_destroyLocator r.client)
    · exact h.locator
  · intro hopen
    rw [hsame, hclosed] at hopen
    cases hopen
  · intro _
    obtain ⟨k', hk'⟩ := h.first hclosed
    exact ⟨k', (hfirst k').trans hk'⟩
  · intro k' k'' hk' hk''
    rw [hfirst] at hk' hk''
    exact h.unique k' k'' hk' hk''
  · intro k' hk'
    rw [hfirst] at hk'
    rw [List.countP_append, List.countP_singleton, h.count k' hk', closers,
      Function.update_apply]
    by_cases heq : k' = k
    · rw [if_pos heq]
      subst heq
      exact (next.destroys_eq hk').symm
    · have hother : deed.isDestroyed = false := by
        cases hdestroyed : deed.isDestroyed with
        | false => rfl
        | true => exact absurd (h.unique k' k hk' (next.of_destroyed hdestroyed).1) heq
      rw [if_neg heq, hother]
      rfl
  · intro k' hk'
    rw [hfirst] at hk'
    rw [List.find?_append, h.earliest k' hk', Option.some_or]
  · intro _ _
    rw [hsame, hclosed]
  · intro k' hk'
    rw [hfirst]
    rcases List.mem_append.mp hk' with hk' | hk'
    · exact h.destroyed k' hk'
    · have hdeed := List.mem_singleton.mp hk'
      obtain ⟨hown, heq⟩ := next.of_destroyed (by rw [← hdeed]; rfl)
      rw [← hdeed] at heq
      cases heq
      exact hown

variable {there : Plugins → Prop}

theorem step (h : Tally shared r deeds) (step : Step there r deed r') :
    Tally shared r' (deeds ++ [deed]) := by
  cases step with
  | begin _ _ _ => exact h.of_other (Handled.rel_refl _) rfl rfl rfl (by simp)
  | @turn _ caller _ _ _ _ _ _ _ =>
    refine h.of_other (Handled.rel_refl _) rfl rfl ?_ ?_ <;>
      cases caller.stage <;> simp [Stage.deed, Deed.isDestroyed]
  | leave _ _ => exact h.of_other (Handled.rel_refl _) rfl rfl rfl (by simp)
  | swap idle => exact h.swap idle rfl rfl
  | close next => exact h.close next rfl rfl
  | work _ works _ => exact h.of_other works.handled rfl rfl rfl (by simp)
  | thread _ _ => exact h.of_other (Handled.rel_refl _) rfl rfl rfl (by simp)
  | register _ _ => exact h.of_other (Handled.rel_refl _) rfl rfl rfl (by simp)
  | newImport _ imported =>
    obtain ⟨hlink, hafter, -⟩ := imported.eq_ok
    refine h.of_other ?_ ?_ rfl rfl (by simp)
    · rw [Client.link_shared hlink]
      exact Handled.rel_refl _
    · rw [hafter]

theorem runs {r₀ : Running L W} (h : Tally shared r₀ []) (run : Runs there r₀ deeds r) :
    Tally shared r deeds := by
  induction run with
  | refl => exact h
  | tail _ step ih => exact ih.step step

end Tally

end Running

end RemoteCall
