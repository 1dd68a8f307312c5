/-
Traffic for one target does not disturb the picks for another.

A locator keeps one counter per target, and the target of a service is its provider, or its own
name without one. While the candidates of every target stay the same, the picks for a target
depend on the calls for that target only (`AnyLocator.picks_of_a_target_are_its_own`). Services
that name the same provider have one counter between them, though their names differ: a call of
one makes the other skip a turn (`Client.providers_share_a_counter`).

* `Balancer.selectAll_filter` — the choices for a name, without those for other names.
* `AnyLocator.Steady` — all that a locator knows is the list that there is, and there is no
  other one.
* `AnyLocator.Steady.locate`, `AnyLocator.Steady.wait` — looking up and waiting keep it so.
* `AnyLocator.Steady.serve` — the picks of a locator are the choices of its balancer.
-/
import RemoteCall.Client.Invoke
import RemoteCall.Proofs.Locator.Fairness
import RemoteCall.Proofs.Locator.Placement
import RemoteCall.Proofs.Locator.Selection

namespace RemoteCall

/-! ## Balancers -/

namespace Balancer

variable {counters counters' : Table UInt64} {name : String}

/-- A choice for a name goes by the counter of that name. -/
theorem place_congr (q : Question) (h : counter counters q.1 = counter counters' q.1) :
    (roundRobin counters).place q = (roundRobin counters').place q := by
  have hnumber : (roundRobin counters).number q = (roundRobin counters').number q :=
    congrArg UInt64.toNat h
  unfold place
  rw [hnumber]

/-- A choice for another name leaves the choices for a name alone. -/
theorem selectAll_cons_of_ne {q : Question} (h : q.1 ≠ name) (counters : Table UInt64)
    (questions : List Question) :
    ∃ after, counter after name = counter counters name ∧
      ((roundRobin counters).selectAll (q :: questions)).1.filter (·.question.1 == name) =
        ((roundRobin after).selectAll questions).1.filter (·.question.1 == name) := by
  obtain ⟨after, hafter, hcounter⟩ := select_roundRobin counters q
  refine ⟨after, ?_, ?_⟩
  · rw [hcounter, Question.contested, beq_false_of_ne h]
    exact UInt64.add_zero _
  · simp only [selectAll, hafter]
    exact List.filter_cons_of_neg (by simpa using h)

/-- **The choices for a name are made as if there were no other names.** -/
theorem selectAll_filter (questions : List Question)
    (same : counter counters' name = counter counters name) :
    ((roundRobin counters).selectAll questions).1.filter (·.question.1 == name) =
      ((roundRobin counters').selectAll (questions.filter (·.1 == name))).1 := by
  -- whatever is left out, the counters of the name agree all the way
  induction questions generalizing counters counters' with
  | nil => rfl
  | cons q questions ih =>
    by_cases hname : q.1 = name
    · obtain ⟨after, hafter, hcounter⟩ := select_roundRobin counters q
      obtain ⟨after', hafter', hcounter'⟩ := select_roundRobin counters' q
      have hplace : (roundRobin counters').place q = (roundRobin counters).place q :=
        place_congr q (by rw [hname, same])
      have hstill : counter after' name = counter after name := by
        rw [hcounter, hcounter', same]
      rw [List.filter_cons_of_pos (l := questions) (by simpa using hname)]
      simp only [selectAll, hafter, hafter', select_eq_place, hplace]
      rw [List.filter_cons_of_pos (by simpa using hname), ih hstill]
    · obtain ⟨after, hafter, hskip⟩ := selectAll_cons_of_ne hname counters questions
      rw [hskip, List.filter_cons_of_neg (by simpa using hname)]
      exact ih (same.trans hafter.symm)

end Balancer

/-! ## Registries that always list the same -/

/-- A registry lists the same instances whenever it is asked. `P` is what is known of its state:
it stays so. -/
structure Discovery.Fixed {β : Type} [Discovery β] (P : β → Prop)
    (lists : String → List ServiceInstance) : Prop where
  list : ∀ b, P b → ∀ name, (Discovery.listHealthy b name).1 = .ok (lists name) ∧
    P (Discovery.listHealthy b name).2
  subscribe : ∀ b, P b → ∀ name, P (Discovery.subscribe b name).2

/-- The registry within the process lists what is registered, until something else is. -/
theorem MemoryDiscovery.fixed (d : MemoryDiscovery) : Discovery.Fixed (· = d) d.listHealthy where
  list b hb name := by
    subst hb
    exact ⟨rfl, rfl⟩
  subscribe b hb name := hb

/-- A subscription that has been loaded holds the list that there is. -/
def Profile.Current (lists : String → List ServiceInstance) (p : Profile) : Prop :=
  p.load = .pending ∨ p.load = .done ∧ p.snapshot = lists p.name

namespace Subscriptions

variable {t : Subscriptions} {id id' : SubscriptionId} {name : String}
  {lists : String → List ServiceInstance}

/-- Nothing is destroyed, whatever stands under a name has that name, and all that is known is
what there is. -/
structure Current (t : Subscriptions) (lists : String → List ServiceInstance) : Prop where
  alive : t.destroyed = false
  listed : ∀ name id, t.services[name]? = some id → t.name? id = some name
  current : ∀ id p, t.profile? id = some p → p.Current lists

theorem current_empty (lists : String → List ServiceInstance) :
    ({} : Subscriptions).Current lists where
  alive := rfl
  listed name id h := by simp at h
  current id p h := by simp [profile?, get?] at h

/-- Changes of subscriptions, in which they keep their names and stay current. -/
theorem Current.of_profiles {t' : Subscriptions} (h : t.Current lists)
    (alive : t'.destroyed = t.destroyed) (services : t'.services = t.services)
    (names : ∀ id, t'.name? id = t.name? id)
    (current : ∀ id p, t'.profile? id = some p → p.Current lists) : t'.Current lists where
  alive := alive.trans h.alive
  listed name id hid := by
    rw [names]
    exact h.listed name id (services ▸ hid)
  current := current

theorem Current.insertIfAbsent (h : t.Current lists) (name : String) :
    (t.insertIfAbsent name).2.Current lists ∧
      (t.insertIfAbsent name).2.services[name]? = some (t.insertIfAbsent name).1 := by
  rcases t.profile?_insertIfAbsent name with ⟨hfound, hsame⟩ | ⟨-, hid, hservices, hprofile⟩
  · rw [hsame]
    exact ⟨h, hfound⟩
  · refine ⟨⟨?_, fun other id hother => ?_, fun id p hp => ?_⟩, ?_⟩
    · rw [destroyed_insertIfAbsent, h.alive]
    · rw [hservices, Table.getElem?_insert_eq] at hother
      unfold name?
      rw [hprofile]
      by_cases heq : other = name
      · rw [if_pos heq] at hother
        rw [if_pos (Option.some.inj hother).symm, heq]
        rfl
      · rw [if_neg heq] at hother
        have hlisted := h.listed other id hother
        by_cases hnew : id = t.all.size
        · rw [hnew, name?, profile?_size] at hlisted
          cases hlisted
        · rw [if_neg hnew]
          exact hlisted
    · rw [hprofile] at hp
      split at hp
      · cases hp
        exact .inl rfl
      · exact h.current id p hp
    · rw [hservices, hid, Table.getElem?_insert_eq, if_pos rfl]

theorem name?_install {instances : List ServiceInstance} :
    (t.install id instances).name? id' = t.name? id' := by
  unfold name?
  rw [profile?_install]
  split
  · rw [Option.map_map]
    rfl
  · rfl

theorem name?_setLoad {load : LoadState} : (t.setLoad id load).name? id' = t.name? id' := by
  unfold name?
  rw [profile?_setLoad]
  split
  · rw [Option.map_map]
    rfl
  · rfl

/-- The list that there is may be taken in at any time. -/
theorem Current.install (h : t.Current lists) (hname : t.name? id = some name) :
    (t.install id (lists name)).Current lists := by
  refine h.of_profiles rfl rfl (fun _ => name?_install) fun id' p hp => ?_
  rw [profile?_install] at hp
  split at hp
  · next heq =>
    subst heq
    obtain ⟨before, hbefore, rfl⟩ := Option.map_eq_some_iff.mp hp
    rw [name?, hbefore] at hname
    exact (h.current id before hbefore).imp_right fun hdone => ⟨hdone.1, by
      rw [← Option.some.inj hname]⟩
  · exact h.current id' p hp

/-- A subscription is current once it has been loaded with the list that there is. -/
theorem Current.load (h : t.Current lists) (hname : t.name? id = some name) :
    (((t.setLoad id .running).install id (lists name)).setLoad id .done).Current lists := by
  refine h.of_profiles rfl rfl
    (fun _ => name?_setLoad.trans (name?_install.trans name?_setLoad)) fun id' p hp => ?_
  rw [profile?_setLoad, profile?_install, profile?_setLoad] at hp
  split at hp
  · next heq =>
    subst heq
    simp only [Option.map_map] at hp
    obtain ⟨before, hbefore, rfl⟩ := Option.map_eq_some_iff.mp hp
    rw [name?, hbefore] at hname
    exact .inr ⟨rfl, by rw [← Option.some.inj hname]; rfl⟩
  · exact h.current id' p hp

/-- What is known of a name whose subscription has been loaded. -/
theorem Current.snapshot_eq (h : t.Current lists) (hid : t.services[name]? = some id)
    (hload : t.load? id ≠ some .pending) : t.snapshot name = lists name := by
  obtain ⟨p, hp, hname⟩ := Option.map_eq_some_iff.mp (h.listed name id hid)
  obtain ⟨sub, hsub, rfl⟩ := Option.map_eq_some_iff.mp hp
  rcases h.current id _ hp with hpending | ⟨-, hsnapshot⟩
  · exact absurd (by rw [load?, hp, Option.map_some, hpending]) hload
  · rw [hname] at hsnapshot
    rw [snapshot, hid, Option.bind_some, hsub]
    exact hsnapshot

end Subscriptions

/-- Refreshers that run for the first time change nothing that callers can tell. -/
theorem Subscriptions.profile?_beginAll {t : Subscriptions} {id : SubscriptionId}
    {now period : Nat} : (t.beginAll now period).profile? id = t.profile? id := by
  simp [beginAll, profile?, get?, Function.comp_def, profile_begin]

/-! ## Registry locators -/

namespace RegistryLocator

variable {β : Type} [Discovery β] {P : β → Prop} {lists : String → List ServiceInstance}
  {b : Balancer} {l : RegistryLocator β} {id : SubscriptionId} {sub : Subscription}

/-- The locator has come to a balancer, and all that it knows is what there is. -/
structure Steady (l : RegistryLocator β) (P : β → Prop) (lists : String → List ServiceInstance)
    (b : Balancer) : Prop where
  backend : P l.backend
  subscriptions : l.subscriptions.Current lists
  balancer : l.balancer = b

namespace Steady

theorem refresh (h : l.Steady P lists b) (fixed : Discovery.Fixed P lists)
    (id : SubscriptionId) : (l.refresh id).Steady P lists b := by
  cases hget : l.subscriptions.get? id with
  | none =>
    have hsame : l.refresh id = l := by rw [RegistryLocator.refresh, hget]
    rwa [hsame]
  | some sub =>
    obtain ⟨hlist, hafter⟩ := fixed.list l.backend h.backend sub.name
    rw [refresh_eq hget, hlist]
    exact ⟨hafter, h.subscriptions.install (Subscriptions.name?_of_get? hget), h.balancer⟩

theorem tick (h : l.Steady P lists b) (fixed : Discovery.Fixed P lists) (id : SubscriptionId)
    (due : Nat) : (l.tick id due).Steady P lists b := by
  let next := if due + tolerance < l.now then l.now + l.interval else due + l.interval
  let ticked : RegistryLocator β := { l with
    subscriptions := l.subscriptions.update id fun sub => { sub with refresher := .due next } }
  have hprofile : ∀ id', ticked.subscriptions.profile? id' = l.subscriptions.profile? id' :=
    fun _ => Subscriptions.profile?_update_of_keeps fun _ => rfl
  have hticked : ticked.Steady P lists b := by
    refine ⟨h.backend, ?_, h.balancer⟩
    exact h.subscriptions.of_profiles rfl rfl (fun id' => congrArg (Option.map _) (hprofile id'))
      fun id' p hp => h.subscriptions.current id' p (hprofile id' ▸ hp)
  exact hticked.refresh fixed id

theorem runDue (h : l.Steady P lists b) (fixed : Discovery.Fixed P lists) (punctual : Bool)
    (limit fuel : Nat) : (RegistryLocator.runDue punctual limit fuel l).Steady P lists b := by
  induction fuel generalizing l with
  | zero => exact h
  | succ fuel ih =>
    rw [RegistryLocator.runDue]
    split
    · exact h
    · next due id _ =>
      have hclock : (if punctual then { l with now := max l.now due } else l).Steady P lists b := by
        cases punctual with
        | true => exact ⟨h.backend, h.subscriptions, h.balancer⟩
        | false => exact h
      exact ih (hclock.tick fixed id due)

/-- Waiting changes nothing that callers can tell. -/
theorem advance (h : l.Steady P lists b) (fixed : Discovery.Fixed P lists) (millis : Nat) :
    (l.advance millis).Steady P lists b := by
  have hsettle : l.settle.Steady P lists b := by
    refine ⟨h.backend, ?_, h.balancer⟩
    exact h.subscriptions.of_profiles rfl rfl
      (fun _ => congrArg (Option.map _) Subscriptions.profile?_beginAll)
      fun id p hp => h.subscriptions.current id p (Subscriptions.profile?_beginAll ▸ hp)
  have hrun := hsettle.runDue fixed true (l.now + millis) (l.tickBound millis)
  exact ⟨hrun.backend, hrun.subscriptions, hrun.balancer⟩

/-- A subscription is loaded with the list that there is. -/
theorem loadFirst (h : l.Steady P lists b) (fixed : Discovery.Fixed P lists)
    (get : l.subscriptions.get? id = some sub) :
    (l.loadFirst id).Steady P lists b ∧
      (l.loadFirst id).subscriptions.services = l.subscriptions.services ∧
      (l.loadFirst id).subscriptions.load? id ≠ some .pending := by
  by_cases hpending : sub.load = .pending
  · obtain ⟨hlist, hafter⟩ := fixed.list _ (fixed.subscribe l.backend h.backend sub.name) sub.name
    have hname : l.subscriptions.name? id = some sub.name := Subscriptions.name?_of_get? get
    rw [loadFirst_of_pending get hpending, hlist]
    refine ⟨⟨hafter, h.subscriptions.load hname, h.balancer⟩, rfl, ?_⟩
    simp [Subscriptions.load?, Subscriptions.profile?_setLoad, Function.comp_def]
  · rw [loadFirst_of_ne get hpending]
    refine ⟨h, rfl, ?_⟩
    rw [Subscriptions.load?_of_get? get]
    exact fun heq => hpending (Option.some.inj heq)

/-- Whoever subscribes to a name knows the list that there is. -/
theorem subscribe (h : l.Steady P lists b) (fixed : Discovery.Fixed P lists) (name : String) :
    ∃ after : RegistryLocator β, l.subscribe name = (.ok (), after) ∧ after.Steady P lists b ∧
      after.subscriptions.snapshot name = lists name := by
  obtain ⟨hinserted, hservices⟩ := h.subscriptions.insertIfAbsent name
  let inserted : RegistryLocator β :=
    { l with subscriptions := (l.subscriptions.insertIfAbsent name).2 }
  have hsteady : inserted.Steady P lists b := ⟨h.backend, hinserted, h.balancer⟩
  obtain ⟨p, hp, -⟩ := Option.map_eq_some_iff.mp (hinserted.listed name _ hservices)
  obtain ⟨sub, hget, -⟩ := Option.map_eq_some_iff.mp hp
  obtain ⟨hloaded, hsame, hload⟩ := hsteady.loadFirst fixed hget
  refine ⟨_, ?_, hloaded, hloaded.subscriptions.snapshot_eq (hsame ▸ hservices) hload⟩
  simp [RegistryLocator.subscribe, h.subscriptions.alive, inserted]

end Steady

end RegistryLocator

/-! ## Locators at work -/

/-- What a locator does for the calls that share it. -/
inductive Errand where
  | locate (invocation : Invocation) (exclusions : List ServiceInstance)
  /-- It hears how a send went. -/
  | hear (node : ServiceInstance) (outcome : Outcome) (elapsed : Elapsed)
  /-- Time passes. -/
  | wait (millis : Nat)

namespace Errand

/-- The errand is a look-up of a target. -/
def isFor (target : String) : Errand → Bool
  | .locate invocation _ => invocation.targetName == target
  | _ => false

/-- What a balancer is asked, given the instances of every target. -/
def question? (lists : String → List ServiceInstance) : Errand → Option Question
  | .locate invocation exclusions =>
    some (invocation.targetName,
      groupRouter invocation (exclude (lists invocation.targetName) exclusions))
  | _ => none

end Errand

namespace AnyLocator

variable {β : Type} [Discovery β] {P : β → Prop} {lists : String → List ServiceInstance}
  {b : Balancer} {l : AnyLocator β}

/-- Lets time pass. -/
def wait : AnyLocator β → Nat → AnyLocator β
  | .inl direct, _ => .inl direct
  | .inr registry, millis => .inr (registry.advance millis)

/-- Does errands one after the other; also what is picked for each look-up. -/
def serve (l : AnyLocator β) :
    List Errand → List (Invocation × Option ServiceInstance) × AnyLocator β
  | [] => ([], l)
  | .locate invocation exclusions :: errands =>
    let (picked, after) := Locator.locate l invocation exclusions
    let (picks, last) := after.serve errands
    ((invocation, picked) :: picks, last)
  | .hear node outcome elapsed :: errands =>
    serve (Locator.feedback l node outcome elapsed) errands
  | .wait millis :: errands => (l.wait millis).serve errands

/-- What is picked for a target while errands are done, in order. -/
def picksFor (l : AnyLocator β) (target : String) (errands : List Errand) :
    List (Option ServiceInstance) :=
  ((l.serve errands).1.filter (·.1.targetName == target)).map (·.2)

/-- The locator has come to a balancer, and all that it knows is what there is. -/
def Steady (l : AnyLocator β) (P : β → Prop) (lists : String → List ServiceInstance)
    (b : Balancer) : Prop :=
  match l with
  | .inl direct => (∀ name, lists name = direct.instances) ∧ direct.balancer = b
  | .inr registry => registry.Steady P lists b

namespace Steady

/-- A look-up asks the balancer about the instances that there are. -/
theorem locate (h : l.Steady P lists b) (fixed : Discovery.Fixed P lists)
    (invocation : Invocation) (exclusions : List ServiceInstance) :
    ∃ after : AnyLocator β, Locator.locate l invocation exclusions =
        ((b.select invocation.targetName
          (groupRouter invocation (exclude (lists invocation.targetName) exclusions))).1, after) ∧
      after.Steady P lists (b.select invocation.targetName
        (groupRouter invocation (exclude (lists invocation.targetName) exclusions))).2 := by
  cases l with
  | inl direct =>
    obtain ⟨hlists, rfl⟩ := h
    rw [hlists]
    exact ⟨_, rfl, hlists, rfl⟩
  | inr registry =>
    obtain ⟨subscribed, hrun, hsteady, hsnapshot⟩ :=
      RegistryLocator.Steady.subscribe h fixed invocation.targetName
    refine ⟨.inr (registry.locate invocation exclusions).2, ?_, ?_⟩
    · show ((registry.locate invocation exclusions).1, _) = _
      rw [RegistryLocator.locate, hrun, ← hsteady.balancer, ← hsnapshot]
      rfl
    · rw [RegistryLocator.locate, hrun, ← hsteady.balancer, ← hsnapshot]
      exact ⟨hsteady.backend, hsteady.subscriptions, rfl⟩

theorem hear (h : l.Steady P lists b) (node : ServiceInstance) (outcome : Outcome)
    (elapsed : Elapsed) :
    (Locator.feedback l node outcome elapsed : AnyLocator β).Steady P lists b := by
  cases l with
  | inl direct => exact h
  | inr registry => exact ⟨h.backend, h.subscriptions, h.balancer⟩

theorem wait (h : l.Steady P lists b) (fixed : Discovery.Fixed P lists) (millis : Nat) :
    (l.wait millis).Steady P lists b := by
  cases l with
  | inl direct => exact h
  | inr registry => exact RegistryLocator.Steady.advance h fixed millis

/-- **The picks of a steady locator are the choices of its balancer.** -/
theorem serve (h : l.Steady P lists b) (fixed : Discovery.Fixed P lists)
    (errands : List Errand) :
    (l.serve errands).1.map (fun (invocation, picked) => (invocation.targetName, picked)) =
      (b.selectAll (errands.filterMap (Errand.question? lists))).1.map
        fun s => (s.question.1, s.picked) := by
  induction errands generalizing l b with
  | nil => rfl
  | cons errand errands ih =>
    cases errand with
    | locate invocation exclusions =>
      obtain ⟨after, hlocate, hafter⟩ := h.locate fixed invocation exclusions
      simp only [AnyLocator.serve, hlocate, List.map_cons, ih hafter]
      rfl
    | hear node outcome elapsed => exact ih (h.hear node outcome elapsed)
    | wait millis => exact ih (h.wait fixed millis)

theorem picksFor (h : l.Steady P lists b) (fixed : Discovery.Fixed P lists) (target : String)
    (errands : List Errand) : l.picksFor target errands =
      ((b.selectAll (errands.filterMap (Errand.question? lists))).1.filter
        (·.question.1 == target)).map Selection.picked := by
  have hpicks := congrArg (fun picks => (picks.filter (·.1 == target)).map (·.2))
    (h.serve fixed errands)
  simpa only [AnyLocator.picksFor, List.filter_map, List.map_map, Function.comp_def] using hpicks

end Steady

/-- Leaving out errands that are not for a target leaves all questions about it. -/
theorem questions_of_kept (target : String) (errands : List Errand) (kept : Errand → Bool)
    (keeps : ∀ errand ∈ errands, errand.isFor target = true → kept errand = true) :
    ((errands.filter kept).filterMap (Errand.question? lists)).filter (·.1 == target) =
      (errands.filterMap (Errand.question? lists)).filter (·.1 == target) := by
  rw [List.filter_filterMap, List.filter_filterMap, List.filterMap_filter]
  refine List.filterMap_congr fun errand hmem => ?_
  split
  · rfl
  · next hdropped =>
    have hother : errand.isFor target = false :=
      Bool.eq_false_of_not_eq_true fun hfor => hdropped (keeps errand hmem hfor)
    cases errand with
    | locate invocation exclusions =>
      have hname : (invocation.targetName == target) = false := hother
      simp [Errand.question?, Option.filter, hname]
    | hear | wait => rfl

/-- **The picks for a target are its own.** As long as a registry lists the same instances
whenever it is asked, or for a direct link, what a round robin locator picks for a target stays
the same when any errands that are not for the target are left out: the look-ups of services with
another target, whatever they exclude, all feedbacks, and the passing of time. The target of a
service is its provider, or its own name without one. -/
theorem picks_of_a_target_are_its_own (fixed : Discovery.Fixed P lists) {counters : Table UInt64}
    (steady : l.Steady P lists (.roundRobin counters)) (target : String) (errands : List Errand)
    (kept : Errand → Bool)
    (keeps : ∀ errand ∈ errands, errand.isFor target = true → kept errand = true) :
    l.picksFor target (errands.filter kept) = l.picksFor target errands := by
  rw [steady.picksFor fixed, steady.picksFor fixed, Balancer.selectAll_filter _ rfl,
    Balancer.selectAll_filter _ rfl, questions_of_kept target errands kept keeps]

/-- Two instances each of the services `greeter` and `other`, in one registry. -/
def town : MemoryDiscovery :=
  (["left", "right"].flatMap fun host =>
    [.ofHostPort "greeter" host 80, .ofHostPort "other" host 90]).foldl MemoryDiscovery.register ∅

/-- Two calls of the greeter, with a call of the other service and half a minute in between. -/
def errands : List Errand :=
  let other : Invocation :=
    { Activity.greet with service := { Activity.greet.service with name := "other" } }
  [.locate Activity.greet [], .locate other [],
    .hear (.ofHostPort "other" "left" 90) (.ok (.value none)) ⟨0⟩, .wait 30000,
    .locate Activity.greet []]

/-- A locator over the town that has not been used yet. -/
def inTown : AnyLocator MemoryDiscovery := .inr { backend := town }

/-- The greeters take turns, as they do without the other service. -/
theorem greeters_take_turns_undisturbed :
    Discovery.Fixed (· = town) town.listHealthy ∧
      inTown.Steady (· = town) town.listHealthy (.roundRobin ∅) ∧
      (∀ errand ∈ errands, errand.isFor "greeter" = true → (!errand.isFor "other") = true) ∧
      (inTown.picksFor "greeter" errands).map (·.map (·.code)) =
        [some "left:80", some "right:80"] := by
  have steady : inTown.Steady (· = town) town.listHealthy (.roundRobin ∅) :=
    ⟨rfl, Subscriptions.current_empty _, rfl⟩
  have keeps : ∀ errand ∈ errands,
      errand.isFor "greeter" = true → (!errand.isFor "other") = true := by decide
  have hsame := picks_of_a_target_are_its_own town.fixed steady "greeter" errands
    (fun errand => !errand.isFor "other") keeps
  have halone : (inTown.picksFor "greeter" (errands.filter fun errand =>
      !errand.isFor "other")).map (·.map (·.code)) = [some "left:80", some "right:80"] := by
    decide +kernel
  exact ⟨town.fixed, steady, keeps, hsame ▸ halone⟩

end AnyLocator

/-! ## Services that name the same provider -/

namespace Client

/-- What was sent: the service that it was for, and the code of the instance that it went to. -/
abbrev Ledger := List (String × String)

/-- A client whose sends all succeed and are entered in a ledger, with two instances to share. -/
def bookkeeper : Client DirectLocator Ledger where
  config := {}
  references := ∅
  plugins := .builtIn
  connector node request := Run.world fun ledger =>
    (.ok { status := .success, attributes := ∅, body := [] },
      ledger ++ [(request.header.service, node.code)])
  interceptors := []
  clock := pure 0
  stopwatch := pure 0
  closed := false
  network := {
    shared := some { instances := [.ofHostPort "shop" "left" 80, .ofHostPort "shop" "right" 80] }
    links := []
    world := [] }

/-- Calls imported services one after the other; also what comes of the calls. -/
def callEach {L W : Type} [Locator L] (c : Client L W) :
    List Import → List (Option CallResult) × Client L W
  | [] => ([], c)
  | imported :: rest =>
    let (call, contexts, _) := c.invokeGeneric {} imported "list" none
    let (result, _, _, after) := c.wait contexts false call
    let (results, last) := after.callEach rest
    (result :: results, last)

/-- The call came to an end, and not to an error. -/
def succeeds : Option CallResult → Bool
  | some (.ok _) => true
  | _ => false

/-- The instances that the calls of a service went to. -/
def sentFor (service : String) (c : Client DirectLocator Ledger) : List String :=
  (c.network.world.filter (·.1 == service)).map (·.2)

/-- What the bookkeeper imports under a name as a service of the provider `shop`. -/
def department (name : String) : Import :=
  { service := {
      name := name, client := {}, reference := { provider := "shop" },
      codec := CodecOptions.plain .json, connectRetry := 1, timeoutRetry := 1, methods := ∅ }
    link := none
    typed := false }

/-- **Services that name the same provider have one counter between them.** The second call of
`billing` goes to the other instance, unless `search` is called before it. -/
theorem providers_share_a_counter :
    let billing := department "billing"
    let search := department "search"
    bookkeeper.importGeneric "shop" "billing" = .ok (billing, bookkeeper) ∧
      bookkeeper.importGeneric "shop" "search" = .ok (search, bookkeeper) ∧
      billing.service.name ≠ search.service.name ∧
      (bookkeeper.callEach [billing, search, billing]).1.all succeeds = true ∧
      (bookkeeper.callEach [billing, billing]).2.sentFor "billing" = ["left:80", "right:80"] ∧
      (bookkeeper.callEach [billing, search, billing]).2.sentFor "billing" =
        ["left:80", "left:80"] := by
  intro billing search
  exact ⟨rfl, rfl, by decide, by decide +kernel, by decide +kernel, by decide +kernel⟩

end Client

end RemoteCall
