/-
Destroying a registry locator stops every refresher.

A subscribe that finds the locator destroyed takes its name out of the table, whatever
stands there by then; that may be the subscription of someone else, whose handle it does
not have. Nothing is lost all the same, because somebody is always responsible.

* `Traffic.Awaited` — who is going to notify a handle: a subscribe that holds it, or the
  destroy that has yet to visit its name, as long as nobody else can take that out.
* `Traffic.Open`, `Traffic.Closing` — what is so before and after the flag is set; every
  step preserves it (`Open.step`, `Closing.step`).
-/
import RemoteCall.Proofs.Locator.Traffic

namespace RemoteCall

/-! ## What steps do to the subscriptions -/

namespace Subscriptions

variable {t : Subscriptions} {id other : SubscriptionId} {name n : String}

/-- The refresher of a subscription was started, and its handle has not been notified. -/
def Live (t : Subscriptions) (id : SubscriptionId) : Prop :=
  ∃ sub, t.get? id = some sub ∧ sub.closed = false

theorem live_of_update {change : Subscription → Subscription}
    (h : (t.update other change).Live id) (keeps : ∀ sub, (change sub).closed = sub.closed) :
    t.Live id := by
  obtain ⟨sub, hsub, hclosed⟩ := h
  simp only [update, get?, Array.getElem?_modify] at hsub
  split at hsub
  · obtain ⟨before, hbefore, rfl⟩ := Option.map_eq_some_iff.mp hsub
    exact ⟨before, hbefore, (keeps before).symm.trans hclosed⟩
  · exact ⟨sub, hsub, hclosed⟩

theorem live_of_notify (h : (t.notify other).Live id) : t.Live id ∧ id ≠ other := by
  obtain ⟨sub, hsub, hclosed⟩ := h
  simp only [notify, update, get?, Array.getElem?_modify] at hsub
  split at hsub
  · obtain ⟨before, -, rfl⟩ := Option.map_eq_some_iff.mp hsub
    cases hclosed
  · next hne => exact ⟨⟨sub, hsub, hclosed⟩, fun heq => hne heq.symm⟩

theorem services_removeName :
    (t.removeName name).services[n]? = if name = n then none else t.services[n]? := by
  simp [removeName, Std.ExtTreeMap.getElem?_erase]

theorem ne_of_removeName (h : (t.removeName name).services[n]? = some id) :
    name ≠ n ∧ t.services[n]? = some id := by
  rw [services_removeName] at h
  split at h
  · cases h
  · next hne => exact ⟨hne, h⟩

/-- A visit notifies what stands under the name, and nothing stands there any more. -/
theorem services_stop :
    (t.stop name).services[n]? = if name = n then none else t.services[n]? := by
  unfold stop
  cases h : t.services[name]? with
  | none =>
    simp only
    by_cases hn : name = n
    · rw [if_pos hn, ← hn, h]
    · rw [if_neg hn]
  | some id => exact services_removeName

theorem live_of_stop (h : (t.stop name).Live id) : t.Live id ∧ t.services[name]? ≠ some id := by
  unfold stop at h
  cases hname : t.services[name]? with
  | none =>
    simp only [hname] at h
    exact ⟨h, by simp⟩
  | some stopped =>
    simp only [hname] at h
    obtain ⟨hlive, hne⟩ := live_of_notify (t := t) h
    exact ⟨hlive, fun heq => hne (Option.some.inj heq).symm⟩

/-- An insertion finds a subscription under the name, or starts a new one. -/
theorem insertIfAbsent_cases (t : Subscriptions) (name : String) :
    (∃ id, t.services[name]? = some id ∧ t.insertIfAbsent name = (id, t)) ∨
    (t.services[name]? = none ∧ (t.insertIfAbsent name).1 = t.all.size ∧
      (∀ n, (t.insertIfAbsent name).2.services[n]? =
        if name = n then some t.all.size else t.services[n]?) ∧
      ∀ id, (t.insertIfAbsent name).2.Live id → t.Live id ∨ id = t.all.size) := by
  unfold insertIfAbsent
  cases h : t.services[name]? with
  | some id => exact .inl ⟨id, rfl, rfl⟩
  | none =>
    refine .inr ⟨rfl, rfl, fun n => by simp [Std.ExtTreeMap.getElem?_insert], ?_⟩
    rintro id ⟨sub, hsub, hclosed⟩
    simp only [get?, Array.getElem?_push] at hsub
    split at hsub
    · next heq => exact .inr heq
    · exact .inl ⟨sub, hsub, hclosed⟩

end Subscriptions

/-- Loading and refreshing start and stop nothing. -/
theorem Chore.run_frame (t : Subscriptions) (chore : Chore) :
    (chore.run t).services = t.services ∧ (chore.run t).destroyed = t.destroyed ∧
      ∀ id, (chore.run t).Live id → t.Live id := by
  cases chore with
  | begin now period =>
    refine ⟨rfl, rfl, fun id => ?_⟩
    rintro ⟨sub, hsub, hclosed⟩
    simp only [run, Subscriptions.beginAll, Subscriptions.get?, Array.getElem?_map] at hsub
    obtain ⟨before, hbefore, rfl⟩ := Option.map_eq_some_iff.mp hsub
    refine ⟨before, hbefore, ?_⟩
    unfold Subscription.begin at hclosed
    split at hclosed <;> exact hclosed
  | load id state => exact ⟨rfl, rfl, fun _ h => Subscriptions.live_of_update h fun _ => rfl⟩
  | tick id due => exact ⟨rfl, rfl, fun _ h => Subscriptions.live_of_update h fun _ => rfl⟩
  | install id instances =>
    exact ⟨rfl, rfl, fun _ h => Subscriptions.live_of_update h fun _ => rfl⟩

/-- A destroyed locator neither subscribes nor locates. -/
theorem RegistryLocator.refuses {β : Type} [Discovery β] {l : RegistryLocator β}
    (flag : l.subscriptions.destroyed = true) (name : String) (invocation : Invocation)
    (exclusions : List ServiceInstance) :
    l.subscribe name = (.error destroyedError, l) ∧ l.locate invocation exclusions = (none, l) := by
  have hsubscribe : ∀ name, l.subscribe name = (.error destroyedError, l) := fun name => by
    rw [subscribe, if_pos flag]
  exact ⟨hsubscribe name, by rw [locate, hsubscribe]⟩

namespace Traffic

variable {s s' : Traffic} {k d : Nat} {id : SubscriptionId} {name : String}

/-! ## Who is responsible -/

/-- A destroy has yet to visit the name. -/
def Unvisited (s : Traffic) (name : String) : Prop :=
  ∃ d left, s.destroyers d = .sweeping left ∧ name ∈ left

/-- Someone is going to notify the handle. -/
def Awaited (s : Traffic) (id : SubscriptionId) : Prop :=
  (∃ k, (s.subscribers k).handle? = some id) ∨
  ∃ name, s.table.services[name]? = some id ∧ s.Unvisited name ∧
    ∀ k, (s.subscribers k).name? ≠ some name

/-- Someone is going to take the name out of the table. -/
def Leaving (s : Traffic) (name : String) : Prop :=
  (∃ k, (s.subscribers k).name? = some name) ∨ s.Unvisited name

/-- What is so until the flag is set. -/
structure Open (s : Traffic) : Prop where
  flag : s.table.destroyed = false
  /-- Every refresher belongs to a subscription in the table. -/
  listed : ∀ id, s.table.Live id → ∃ name : String, s.table.services[name]? = some id
  /-- Nobody cleans up, and whoever holds a handle holds that of the table. -/
  held : ∀ k id, (s.subscribers k).handle? = some id →
    ∃ name, s.subscribers k = .holding name id ∧ s.table.services[name]? = some id
  idle : ∀ d, s.destroyers d = .idle

/-- What is so once the flag is set. -/
structure Closing (s : Traffic) : Prop where
  flag : s.table.destroyed = true
  /-- One destroy stops the refreshers. -/
  sole : ∃ d, (s.destroyers d).sweeps = true ∧
    ∀ d', (s.destroyers d').sweeps = true → d' = d
  awaited : ∀ id, s.table.Live id → s.Awaited id
  leaving : ∀ name id, s.table.services[name]? = some id → s.Leaving name

@[simp] theorem subscribers_setSubscriber (s : Traffic) (k : Nat) (now : Subscriber) (k' : Nat) :
    (s.setSubscriber k now).subscribers k' = if k' = k then now else s.subscribers k' := by
  simp [setSubscriber, Function.update_apply]

@[simp] theorem destroyers_setDestroyer (s : Traffic) (d : Nat) (now : Destroyer) (d' : Nat) :
    (s.setDestroyer d now).destroyers d' = if d' = d then now else s.destroyers d' := by
  simp [setDestroyer, Function.update_apply]

/-! ## Before the flag is set -/

theorem start_open : start.Open where
  flag := rfl
  listed id h := by
    obtain ⟨sub, hsub, -⟩ := h
    simp [start, Subscriptions.get?] at hsub
  held k id h := by cases h
  idle d := rfl

/-- A subscribe whose step leaves the table alone, and which holds no handle afterwards that it
did not hold before. -/
theorem Open.setSubscriber (h : s.Open) {now : Subscriber}
    (held : ∀ id, now.handle? = some id →
      ∃ name, now = .holding name id ∧ s.table.services[name]? = some id) :
    (s.setSubscriber k now).Open where
  flag := h.flag
  listed := h.listed
  held k' id hk := by
    rw [subscribers_setSubscriber] at hk ⊢
    split at hk
    · next heq =>
      rw [if_pos heq]
      exact held id hk
    · next hne =>
      rw [if_neg hne]
      exact h.held k' id hk
  idle := h.idle

theorem Open.insert (h : s.Open) (k : Nat) (name : String) :
    ({ s with table := (s.table.insertIfAbsent name).2 }.setSubscriber k
      (.holding name (s.table.insertIfAbsent name).1)).Open := by
  rcases s.table.insertIfAbsent_cases name with ⟨id, hid, heq⟩ | ⟨hnone, hid, hservices, hlive⟩
  · rw [heq]
    refine Open.setSubscriber h fun id' hid' => ?_
    cases hid'
    exact ⟨name, rfl, hid⟩
  · -- Whatever stood in the table stands under another name.
    have hold : ∀ (n : String) id', s.table.services[n]? = some id' →
        (s.table.insertIfAbsent name).2.services[n]? = some id' := by
      intro n id' hn
      rw [hservices, if_neg fun heq => ?_, hn]
      rw [heq, hn] at hnone
      cases hnone
    have hnew : (s.table.insertIfAbsent name).2.services[name]? = some s.table.all.size := by
      rw [hservices, if_pos rfl]
    refine ⟨(Subscriptions.destroyed_insertIfAbsent _ _).trans h.flag, fun id' h' => ?_,
      fun k' id' hk' => ?_, h.idle⟩
    · rcases hlive id' h' with hbefore | rfl
      · obtain ⟨n, hn⟩ := h.listed id' hbefore
        exact ⟨n, hold n id' hn⟩
      · exact ⟨name, hnew⟩
    · rw [subscribers_setSubscriber] at hk' ⊢
      split at hk'
      · next heq =>
        rw [if_pos heq]
        cases hk'
        exact ⟨name, rfl, by rw [hid]; exact hnew⟩
      · next hne =>
        obtain ⟨n, hn, hsome⟩ := h.held k' id' hk'
        exact ⟨n, by rw [if_neg hne]; exact hn, hold n id' hsome⟩

theorem Open.advance (h : s.Open) {table : Subscriptions} {now : Subscriber}
    (hnext : (s.subscribers k).next s.table = some (table, now)) :
    ({ s with table := table }.setSubscriber k now).Open := by
  cases hk : s.subscribers k with
  | begun name =>
    simp only [hk, Subscriber.next, h.flag, Bool.false_eq_true, if_false, Option.some.injEq,
      Prod.mk.injEq] at hnext
    obtain ⟨rfl, rfl⟩ := hnext
    exact h.setSubscriber nofun
  | admitted name =>
    simp only [hk, Subscriber.next, Option.some.injEq, Prod.mk.injEq] at hnext
    obtain ⟨rfl, rfl⟩ := hnext
    exact h.insert k name
  | holding name id =>
    simp only [hk, Subscriber.next, h.flag, Bool.false_eq_true, if_false, Option.some.injEq,
      Prod.mk.injEq] at hnext
    obtain ⟨rfl, rfl⟩ := hnext
    exact h.setSubscriber nofun
  | withdrawing name id =>
    obtain ⟨_, hholding, -⟩ := h.held k id (by rw [hk]; rfl)
    rw [hk] at hholding
    cases hholding
  | unlisted id =>
    obtain ⟨_, hholding, -⟩ := h.held k id (by rw [hk]; rfl)
    rw [hk] at hholding
    cases hholding
  | _ =>
    rw [hk] at hnext
    cases hnext

/-- Whatever leaves the table alone and starts nothing. -/
theorem Open.retable (h : s.Open) {table : Subscriptions}
    (services : table.services = s.table.services) (flag : table.destroyed = s.table.destroyed)
    (live : ∀ id, table.Live id → s.table.Live id) :
    ({ s with table := table } : Traffic).Open := by
  refine ⟨flag.trans h.flag, fun id hid => ?_, fun k id hk => ?_, h.idle⟩
  · simp only [services]
    exact h.listed id (live id hid)
  · simp only [services]
    exact h.held k id hk

theorem Open.chore (h : s.Open) (chore : Chore) :
    ({ s with table := chore.run s.table } : Traffic).Open := by
  obtain ⟨hservices, hflag, hlive⟩ := chore.run_frame s.table
  exact h.retable hservices hflag hlive

/-- **The flag is set.** Whatever stands in the table is going to be visited; so a handle that
nobody holds is notified by then. -/
theorem Open.destroy (h : s.Open) (d : Nat) :
    ({ s with table := { s.table with destroyed := true } }.setDestroyer d
      (.sweeping s.table.services.keys)).Closing := by
  have hunvisited : ∀ (name : String) id, s.table.services[name]? = some id →
      ({ s with table := { s.table with destroyed := true } }.setDestroyer d
        (.sweeping s.table.services.keys)).Unvisited name := by
    intro name id hname
    refine ⟨d, s.table.services.keys, by simp, ?_⟩
    rw [Std.ExtTreeMap.mem_keys, Std.ExtTreeMap.mem_iff_isSome_getElem?, hname]
    rfl
  refine ⟨rfl, ⟨d, by simp [Destroyer.sweeps], fun d' hd' => ?_⟩, fun id hid => ?_,
    fun name id hname => .inr (hunvisited name id hname)⟩
  · by_contra hne
    rw [destroyers_setDestroyer, if_neg hne] at hd'
    rw [show s.destroyers d' = .idle from h.idle d'] at hd'
    cases hd'
  · obtain ⟨name, hname⟩ := h.listed id hid
    by_cases hheld : ∃ k, (s.subscribers k).handle? = some id
    · exact .inl hheld
    · refine .inr ⟨name, hname, hunvisited name id hname, fun k hk => hheld ⟨k, ?_⟩⟩
      -- Who could take the name out holds the handle that stands there.
      obtain ⟨other, hother⟩ := Subscriber.handle?_of_name? hk
      obtain ⟨n, hn, hsome⟩ := h.held k other hother
      simp only [setDestroyer, hn, Subscriber.name?, Option.some.injEq] at hk
      rw [hk, hname, Option.some.injEq] at hsome
      rw [hsome]
      exact hother

/-! ## Once the flag is set -/

/-- What a step of a subscribe must see to: it lets go of a handle only once that is notified,
and of a name only once nothing stands under it, and it answers for what it starts, inserts
and takes up. -/
structure Answers (s : Traffic) (k : Nat) (table : Subscriptions) (now : Subscriber) : Prop where
  handle : ∀ id, (s.subscribers k).handle? = some id → now.handle? = some id ∨ ¬ table.Live id
  live : ∀ id, table.Live id → s.table.Live id ∨ now.handle? = some id
  name : ∀ n : String, (s.subscribers k).name? = some n →
    now.name? = some n ∨ table.services[n]? = none
  inserted : ∀ (n : String) id, table.services[n]? = some id →
    s.table.services[n]? = some id ∨ now.name? = some n
  removed : ∀ (n : String) id, s.table.services[n]? = some id →
    table.services[n]? = some id ∨ (s.subscribers k).name? = some n
  taken : ∀ (n : String) id, now.name? = some n → s.table.services[n]? = some id →
    (s.subscribers k).name? = some n ∨ now.handle? = some id

theorem Closing.of_answers (h : s.Closing) {table : Subscriptions} {now : Subscriber}
    (flag : table.destroyed = true) (ha : s.Answers k table now) :
    ({ s with table := table }.setSubscriber k now).Closing := by
  refine ⟨flag, h.sole, fun id hid => ?_, fun n id hn => ?_⟩
  · by_cases hnow : now.handle? = some id
    · exact .inl ⟨k, by simpa using hnow⟩
    rcases h.awaited id ((ha.live id hid).resolve_right hnow) with
      ⟨k', hk'⟩ | ⟨n, hn, hunvisited, hnobody⟩
    · refine .inl ⟨k', ?_⟩
      rw [subscribers_setSubscriber, if_neg fun heq => ?_]
      · exact hk'
      · rw [heq] at hk'
        exact (ha.handle id hk').elim hnow fun hdead => hdead hid
    · refine .inr ⟨n, (ha.removed n id hn).resolve_right (hnobody k), hunvisited, fun k' => ?_⟩
      rw [subscribers_setSubscriber]
      split
      · exact fun hname => (ha.taken n id hname hn).elim (hnobody k) hnow
      · exact hnobody k'
  · by_cases hnow : now.name? = some n
    · exact .inl ⟨k, by simpa using hnow⟩
    rcases h.leaving n id ((ha.inserted n id hn).resolve_right hnow) with ⟨k', hk'⟩ | hunvisited
    · refine .inl ⟨k', ?_⟩
      rw [subscribers_setSubscriber, if_neg fun heq => ?_]
      · exact hk'
      · rw [heq] at hk'
        rcases ha.name n hk' with hkept | hnone
        · exact hnow hkept
        · have hsome : table.services[n]? = some id := hn
          rw [hnone] at hsome
          cases hsome
    · exact .inr hunvisited

/-- Whoever inserts answers for the handle that it gets, be it a new one or not. -/
theorem answers_insert (hk : s.subscribers k = .admitted name) :
    s.Answers k (s.table.insertIfAbsent name).2
      (.holding name (s.table.insertIfAbsent name).1) := by
  have hhandle : ∀ id, (s.subscribers k).handle? ≠ some id := by simp [hk, Subscriber.handle?]
  have hname : ∀ n, (s.subscribers k).name? ≠ some n := by simp [hk, Subscriber.name?]
  rcases s.table.insertIfAbsent_cases name with ⟨id, hid, heq⟩ | ⟨hnone, hid, hservices, hlive⟩
  · rw [heq]
    refine ⟨fun _ h => (hhandle _ h).elim, fun _ h => .inl h, fun _ h => (hname _ h).elim,
      fun _ _ h => .inl h, fun _ _ h => .inl h, fun n other hn hother => .inr ?_⟩
    cases hn
    rw [hid] at hother
    exact hother
  · rw [hid]
    refine ⟨fun _ h => (hhandle _ h).elim, fun id h => ?_, fun _ h => (hname _ h).elim,
      fun n id h => ?_, fun n id h => .inl ?_, fun n id hn h => ?_⟩
    · exact (hlive id h).imp_right fun heq => by rw [heq]; rfl
    · rw [hservices] at h
      split at h
      · next heq => exact .inr (by rw [heq]; rfl)
      · exact .inl h
    · rw [hservices, if_neg fun heq => ?_, h]
      rw [heq, h] at hnone
      cases hnone
    · cases hn
      rw [hnone] at h
      cases h

theorem Closing.advance (h : s.Closing) {table : Subscriptions} {now : Subscriber}
    (hnext : (s.subscribers k).next s.table = some (table, now)) :
    ({ s with table := table }.setSubscriber k now).Closing := by
  cases hk : s.subscribers k with
  | begun name =>
    simp only [hk, Subscriber.next, h.flag, if_true, Option.some.injEq, Prod.mk.injEq] at hnext
    obtain ⟨rfl, rfl⟩ := hnext
    exact h.of_answers h.flag (by constructor <;> simp_all [Subscriber.handle?, Subscriber.name?])
  | admitted name =>
    simp only [hk, Subscriber.next, Option.some.injEq, Prod.mk.injEq] at hnext
    obtain ⟨rfl, rfl⟩ := hnext
    exact h.of_answers ((Subscriptions.destroyed_insertIfAbsent _ _).trans h.flag)
      (answers_insert hk)
  | holding name id =>
    simp only [hk, Subscriber.next, h.flag, if_true, Option.some.injEq, Prod.mk.injEq] at hnext
    obtain ⟨rfl, rfl⟩ := hnext
    exact h.of_answers h.flag (by constructor <;> simp_all [Subscriber.handle?, Subscriber.name?])
  | withdrawing name id =>
    simp only [hk, Subscriber.next, Option.some.injEq, Prod.mk.injEq] at hnext
    obtain ⟨rfl, rfl⟩ := hnext
    refine h.of_answers h.flag ⟨fun _ hid => .inl ?_, fun _ hlive => .inl hlive,
      fun n hn => .inr ?_, fun n id hn => .inl ?_, fun n id hn => ?_, nofun⟩
    · rwa [hk] at hid
    · rw [hk, Subscriber.name?, Option.some.injEq] at hn
      rw [Subscriptions.services_removeName, if_pos hn]
    · exact (Subscriptions.ne_of_removeName hn).2
    · rw [Subscriptions.services_removeName, hk]
      by_cases heq : name = n
      · exact .inr (by rw [heq]; rfl)
      · exact .inl (by rw [if_neg heq, hn])
  | unlisted id =>
    simp only [hk, Subscriber.next, Option.some.injEq, Prod.mk.injEq] at hnext
    obtain ⟨rfl, rfl⟩ := hnext
    refine h.of_answers h.flag ⟨fun other hother => .inr fun hlive => ?_,
      fun _ hlive => .inl (Subscriptions.live_of_notify hlive).1, fun n hn => ?_,
      fun _ _ hn => .inl hn, fun _ _ hn => .inl hn, nofun⟩
    · rw [hk, Subscriber.handle?, Option.some.injEq] at hother
      exact (Subscriptions.live_of_notify hlive).2 hother.symm
    · rw [hk] at hn
      cases hn
  | _ =>
    rw [hk] at hnext
    cases hnext

/-- A visit notifies what stands under the name, so all that was waiting for it is done. -/
theorem Closing.sweep (h : s.Closing) {left : List String} (hd : s.destroyers d = .sweeping left)
    (name : String) :
    ({ s with table := s.table.stop name }.setDestroyer d
      (.sweeping (left.filter (· ≠ name)))).Closing := by
  have hflag : (s.table.stop name).destroyed = true := by
    unfold Subscriptions.stop
    cases s.table.services[name]? <;> exact h.flag
  have hstill : ∀ n, name ≠ n → s.Unvisited n →
      ({ s with table := s.table.stop name }.setDestroyer d
        (.sweeping (left.filter (· ≠ name)))).Unvisited n := by
    rintro n hne ⟨d', left', hd', hn⟩
    by_cases heq : d' = d
    · refine ⟨d, left.filter (· ≠ name), by simp, ?_⟩
      rw [heq, hd, Destroyer.sweeping.injEq] at hd'
      rw [List.mem_filter, hd']
      exact ⟨hn, by simpa using Ne.symm hne⟩
    · exact ⟨d', left', by simpa [heq] using hd', hn⟩
  refine ⟨hflag, ?_, fun id hid => ?_, fun n id hn => ?_⟩
  · obtain ⟨d', hsweeps, hsole⟩ := h.sole
    obtain rfl : d = d' := hsole d (by rw [hd]; rfl)
    refine ⟨d, by simp [Destroyer.sweeps], fun d' hd' => ?_⟩
    by_contra hne
    rw [destroyers_setDestroyer, if_neg hne] at hd'
    exact hne (hsole d' hd')
  · obtain ⟨hlive, hname⟩ := Subscriptions.live_of_stop (t := s.table) hid
    rcases h.awaited id hlive with hheld | ⟨n, hn, hunvisited, hnobody⟩
    · exact .inl hheld
    · have hne : name ≠ n := fun heq => hname (by rw [heq, hn])
      exact .inr ⟨n, Subscriptions.services_stop.trans (by rw [if_neg hne, hn]),
        hstill n hne hunvisited, hnobody⟩
  · have hsome : (s.table.stop name).services[n]? = some id := hn
    rw [Subscriptions.services_stop] at hsome
    split at hsome
    · cases hsome
    · next hne => exact (h.leaving n id hsome).imp_right (hstill n hne)

/-- A destroy ends, or finds that it has nothing to do: nothing was waiting for it. -/
theorem Closing.setDestroyer (h : s.Closing) {now : Destroyer}
    (before : ∀ left, s.destroyers d = .sweeping left → left = [])
    (sweeps : now.sweeps = (s.destroyers d).sweeps) : (s.setDestroyer d now).Closing := by
  have hstill : ∀ n, s.Unvisited n → (s.setDestroyer d now).Unvisited n := by
    rintro n ⟨d', left, hd', hn⟩
    refine ⟨d', left, ?_, hn⟩
    rw [destroyers_setDestroyer, if_neg fun heq => ?_, hd']
    rw [before left (heq ▸ hd')] at hn
    cases hn
  have hsweeps : ∀ d', ((s.setDestroyer d now).destroyers d').sweeps =
      (s.destroyers d').sweeps := by
    intro d'
    rw [destroyers_setDestroyer]
    split
    · next heq => rw [heq, sweeps]
    · rfl
  refine ⟨h.flag, ?_, fun id hid => ?_, fun n id hn => (h.leaving n id hn).imp_right (hstill n)⟩
  · simpa only [hsweeps] using h.sole
  · rcases h.awaited id hid with hheld | ⟨n, hn, hunvisited, hnobody⟩
    · exact .inl hheld
    · exact .inr ⟨n, hn, hstill n hunvisited, hnobody⟩

theorem Closing.retable (h : s.Closing) {table : Subscriptions}
    (services : table.services = s.table.services) (flag : table.destroyed = s.table.destroyed)
    (live : ∀ id, table.Live id → s.table.Live id) :
    ({ s with table := table } : Traffic).Closing := by
  refine ⟨flag.trans h.flag, h.sole, fun id hid => ?_, fun n id hn => ?_⟩
  · rcases h.awaited id (live id hid) with hheld | ⟨n, hn, hunvisited, hnobody⟩
    · exact .inl hheld
    · exact .inr ⟨n, by simpa only [services] using hn, hunvisited, hnobody⟩
  · simp only [services] at hn
    exact h.leaving n id hn

theorem Closing.chore (h : s.Closing) (chore : Chore) :
    ({ s with table := chore.run s.table } : Traffic).Closing := by
  obtain ⟨hservices, hflag, hlive⟩ := chore.run_frame s.table
  exact h.retable hservices hflag hlive

/-! ## Every reachable state -/

theorem Closing.step {action : Action} (h : s.Closing) (hstep : s.step action = some s') :
    s'.Closing := by
  cases moves_of_step hstep with
  | begin idle =>
    have ha : ∀ k name, s.subscribers k = .idle → s.Answers k s.table (.begun name) := by
      intro k name hk
      constructor <;> simp_all [Subscriber.handle?, Subscriber.name?]
    exact h.of_answers h.flag (ha _ _ idle)
  | advance next => exact h.advance next
  | skip idle _ => exact h.setDestroyer (by simp [idle]) (by rw [idle]; rfl)
  | destroy _ alive =>
    rw [h.flag] at alive
    cases alive
  | sweep name sweeping => exact h.sweep sweeping name
  | finish done => exact h.setDestroyer (by simp [done]) (by rw [done]; rfl)
  | chore chore => exact h.chore chore

/-- What is so at any time. -/
def Sound (s : Traffic) : Prop := s.Open ∨ s.Closing

theorem Open.step {action : Action} (h : s.Open) (hstep : s.step action = some s') :
    s'.Sound := by
  cases moves_of_step hstep with
  | begin _ => exact .inl (h.setSubscriber nofun)
  | advance next => exact .inl (h.advance next)
  | skip _ flag =>
    rw [h.flag] at flag
    cases flag
  | destroy _ _ => exact .inr (h.destroy _)
  | @sweep d _ _ sweeping =>
    rw [h.idle d] at sweeping
    cases sweeping
  | @finish d done =>
    rw [h.idle d] at done
    cases done
  | chore chore => exact .inl (h.chore chore)

theorem Sound.step {action : Action} (h : s.Sound) (hstep : s.step action = some s') :
    s'.Sound :=
  h.elim (·.step hstep) fun h => .inr (h.step hstep)

theorem Sound.retable (h : s.Sound) {table : Subscriptions}
    (services : table.services = s.table.services) (flag : table.destroyed = s.table.destroyed)
    (live : ∀ id, table.Live id → s.table.Live id) :
    ({ s with table := table } : Traffic).Sound :=
  h.imp (·.retable services flag live) (·.retable services flag live)

theorem Reachable.sound (h : s.Reachable) : s.Sound := by
  obtain ⟨actions, hrun⟩ := h
  exact run_preserves (fun _ _ _ => Sound.step) (.inl start_open) hrun

theorem Sound.open_of_alive (h : s.Sound) (alive : s.table.destroyed = false) : s.Open := by
  refine h.resolve_right fun hclosing => ?_
  rw [hclosing.flag] at alive
  cases alive

theorem Sound.closing (h : s.Sound) (flag : s.table.destroyed = true) : s.Closing := by
  refine h.resolve_left fun hopen => ?_
  rw [hopen.flag] at flag
  cases flag

/-- Whoever is through with the names has set the flag. -/
theorem Sound.closing_of_swept (h : s.Sound) (swept : s.Swept) : s.Closing := by
  refine h.resolve_left fun hopen => ?_
  obtain ⟨d, hd⟩ := swept
  rw [hopen.idle d] at hd
  cases hd

/-- When the destroy is through and nobody cleans up, no one is responsible for anything, and so
there is nothing left to be responsible for. -/
theorem Closing.quiet (h : s.Closing) (swept : s.Swept) (settled : s.Settled) :
    s.table.services = ∅ ∧ ∀ sub ∈ s.table.all, sub.closed = true := by
  have hunvisited : ∀ name, ¬ s.Unvisited name := by
    rintro name ⟨d', left, hd', -⟩
    obtain ⟨d, hd⟩ := swept
    obtain ⟨_, -, hsole⟩ := h.sole
    have heq : d' = d := (hsole d' (by rw [hd']; rfl)).trans (hsole d (by rw [hd]; rfl)).symm
    rw [heq, hd] at hd'
    cases hd'
  have hnobody : ∀ k name, (s.subscribers k).name? ≠ some name := by
    intro k name hk
    obtain ⟨id, hid⟩ := Subscriber.handle?_of_name? hk
    rw [settled k] at hid
    cases hid
  constructor
  · refine Std.ExtTreeMap.ext_getElem? fun name => ?_
    rw [Std.ExtTreeMap.getElem?_empty, Option.eq_none_iff_forall_ne_some]
    intro id hid
    exact (h.leaving name id hid).elim (fun ⟨k, hk⟩ => hnobody k name hk) (hunvisited name)
  · intro sub hsub
    obtain ⟨id, hid⟩ := Array.getElem?_of_mem hsub
    by_contra hclosed
    rcases h.awaited id ⟨sub, hid, by simpa using hclosed⟩ with ⟨k, hk⟩ | ⟨name, -, hname, -⟩
    · rw [settled k] at hk
      cases hk
    · exact hunvisited name hname

/-! ## Once the locator is destroyed -/

/-- A subscribe that finds the flag set is refused then and there. -/
theorem step_advance_begun (flag : s.table.destroyed = true)
    (hk : s.subscribers k = .begun name) :
    s.step (.advance k) = some (s.setSubscriber k .refused) := by
  simp [step, hk, Subscriber.next, flag]

/-- A subscribe that has not looked at the flag when it is set never gets past it. -/
theorem Closing.harmless_step {action : Action} (h : s.Closing)
    (hk : (s.subscribers k).harmless = true) (hstep : s.step action = some s') :
    (s'.subscribers k).harmless = true := by
  cases moves_of_step hstep with
  | begin _ =>
    rw [subscribers_setSubscriber]
    split
    · rfl
    · exact hk
  | @advance k' table now next =>
    rw [subscribers_setSubscriber]
    split
    · next heq =>
      rw [heq] at hk
      cases hk' : s.subscribers k' with
      | begun name =>
        simp only [hk', Subscriber.next, h.flag, if_true, Option.some.injEq, Prod.mk.injEq] at next
        rw [← next.2]
        rfl
      | idle => simp [hk', Subscriber.next] at next
      | refused => simp [hk', Subscriber.next] at next
      | _ => simp [hk', Subscriber.harmless] at hk
    · exact hk
  | _ => exact hk

theorem Closing.run_harmless {actions : List Action} (h : s.Closing)
    (hk : (s.subscribers k).harmless = true) (hrun : s.run actions = some s') :
    (s'.subscribers k).harmless = true :=
  (run_preserves (P := fun s => s.Closing ∧ (s.subscribers k).harmless = true)
    (fun _ _ _ h hstep => ⟨h.1.step hstep, h.1.harmless_step h.2 hstep⟩) ⟨h, hk⟩ hrun).2

/-- **Destroying a registry locator leaks no refresher.** Whatever order the steps of
subscribes and destroys came in, once a destroy has visited all names and nobody is cleaning
up any more, nothing stands in the table and every handle ever made has been notified. From
the moment that the flag is set, a subscribe that begins is refused at its first step, which
leaves the table alone, and nothing is located. -/
theorem destroy_leaks_no_refresher (h : s.Reachable) :
    (s.Swept → s.Settled →
      s.table.services = ∅ ∧ ∀ sub ∈ s.table.all, sub.closed = true) ∧
    (s.table.destroyed = true → ∀ actions later, s.run actions = some later →
      (∀ k, s.subscribers k = .idle → (later.subscribers k).harmless = true ∧
        ∀ name, later.subscribers k = .begun name →
          later.step (.advance k) = some (later.setSubscriber k .refused)) ∧
      ∀ {β : Type} [Discovery β] (l : RegistryLocator β), l.subscriptions = later.table →
        ∀ name invocation exclusions,
          l.subscribe name = (.error RegistryLocator.destroyedError, l) ∧
            l.locate invocation exclusions = (none, l)) := by
  constructor
  · intro swept settled
    exact (h.sound.closing_of_swept swept).quiet swept settled
  · intro flag actions later hrun
    have hclosing : s.Closing := h.sound.closing flag
    have hlater : later.Closing := run_preserves (fun _ _ _ => Closing.step) hclosing hrun
    refine ⟨fun k hk => ⟨?_, fun name hname => step_advance_begun hlater.flag hname⟩, ?_⟩
    · exact hclosing.run_harmless (by rw [hk]; rfl) hrun
    · intro β _ l hl name invocation exclusions
      exact RegistryLocator.refuses (by rw [hl]; exact hlater.flag) name invocation exclusions

/-- Two subscribe to one provider and a third to another one while the locator is destroyed. The
second finds the handle of the first; the third inserts only after all names were visited. -/
def rush : List Action :=
  [.begin 0 "greeter", .advance 0, .advance 0, .advance 0, .begin 1 "greeter", .advance 1,
    .begin 2 "speaker", .advance 2, .destroy 0, .advance 1, .sweep 0 "greeter", .finish 0,
    .advance 2, .advance 1, .advance 1, .advance 1, .advance 2, .advance 2, .advance 2]

theorem rush_leaks_no_refresher :
    ∃ s, start.run rush = some s ∧ s.table.all.size = 2 ∧
      (s.table.services = ∅ ∧ ∀ sub ∈ s.table.all, sub.closed = true) ∧
      ∃ later, s.run [.begin 3 "greeter"] = some later ∧
        later.step (.advance 3) = some (later.setSubscriber 3 .refused) ∧
        ∀ name invocation exclusions,
          let l : RegistryLocator MemoryDiscovery := { backend := ∅, subscriptions := later.table }
          l.subscribe name = (.error RegistryLocator.destroyedError, l) ∧
            l.locate invocation exclusions = (none, l) := by
  obtain ⟨s, hrun, hsize, hflag, hswept, hidle, hsettled⟩ : ∃ s, start.run rush = some s ∧
      s.table.all.size = 2 ∧ s.table.destroyed = true ∧ s.destroyers 0 = .finished ∧
      s.subscribers 3 = .idle ∧ s.Settled :=
    ⟨_, rfl, rfl, rfl, rfl, rfl, fun
      | 0 => rfl
      | 1 => rfl
      | 2 => rfl
      | _ + 3 => rfl⟩
  have hlast : s.run [.begin 3 "greeter"] = some (s.setSubscriber 3 (.begun "greeter")) := by
    simp [run, step, hidle]
  obtain ⟨hstopped, hrefused⟩ := destroy_leaks_no_refresher ⟨rush, hrun⟩
  obtain ⟨hbegun, hnone⟩ := hrefused hflag _ _ hlast
  exact ⟨s, hrun, hsize, hstopped ⟨0, hswept⟩ hsettled, _, hlast,
    (hbegun 3 hidle).2 "greeter" (by simp), fun name invocation exclusions =>
      hnone _ rfl name invocation exclusions⟩

end Traffic

end RemoteCall
