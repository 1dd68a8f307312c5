/-
What is known of a provider, and what is located among it.

A snapshot is replaced as a whole, by the answer to a question about its own provider, and
only if that is a list. So it can be read off the history: it is what the last refresh to
succeed has listed (`latest`). What a caller picks it picks from the snapshot of its target
as that was when the caller looked (`Seen`).

* `Turn.install_cases` — how a turn changes snapshots.
* `Activity.snapshots_are_whole` — the above, for every run in which the registry answers
  as it likes.
-/
import RemoteCall.Proofs.Locator.Placement
import RemoteCall.Proofs.Locator.Selection

namespace RemoteCall

/-! ## Snapshots of subscriptions -/

namespace Subscriptions

variable {t t' : Subscriptions} {id id' : SubscriptionId} {name : String}

def snapshot? (t : Subscriptions) (id : SubscriptionId) : Option (List ServiceInstance) :=
  (t.profile? id).map (·.snapshot)

theorem snapshot_eq : t.snapshot name = ((t.services[name]?).bind t.snapshot?).getD [] := by
  unfold snapshot snapshot? profile?
  cases t.services[name]? with
  | none => rfl
  | some id => simp [Function.comp_def, Subscription.profile]

theorem snapshot_of_services (h : t.services[name]? = some id) :
    t.snapshot name = (t.snapshot? id).getD [] := by
  rw [snapshot_eq, h, Option.bind_some]

theorem snapshot_of_none (h : t.services[name]? = none) : t.snapshot name = [] := by
  rw [snapshot_eq, h]
  rfl

theorem snapshot?_install {instances : List ServiceInstance} :
    (t.install id instances).snapshot? id' =
      if id = id' then (t.snapshot? id').map fun _ => instances else t.snapshot? id' := by
  unfold snapshot?
  rw [profile?_install]
  split
  · rw [Option.map_map, Option.map_map]
    rfl
  · rfl

theorem snapshot?_setLoad {load : LoadState} :
    (t.setLoad id load).snapshot? id' = t.snapshot? id' := by
  unfold snapshot?
  rw [profile?_setLoad]
  split
  · rw [Option.map_map]
    rfl
  · rfl

theorem snapshot?_update_of_keeps {change : Subscription → Subscription}
    (h : ∀ sub, (change sub).profile = sub.profile) :
    (t.update id change).snapshot? id' = t.snapshot? id' := by
  rw [snapshot?, profile?_update_of_keeps h]
  rfl

/-- Names and snapshots that are the same show the same. -/
theorem snapshot_congr (services : t'.services[name]? = t.services[name]?)
    (snapshots : ∀ id, t'.snapshot? id = t.snapshot? id) : t'.snapshot name = t.snapshot name := by
  rw [snapshot_eq, snapshot_eq, services]
  congr 1
  exact Option.bind_congr fun id _ => snapshots id

end Subscriptions

namespace Activity

open Subscriptions

variable {plan : Plan} {s s' : Activity} {w : Worker} {stage : Stage} {events : List Event}
  {t : Subscriptions} {k : Nat} {name : String}

/-! ## The last refresh to succeed -/

/-- The list that came in with an event, for whoever goes by a name. -/
def Event.installs? (name : String) : Event → Option (List ServiceInstance)
  | .listed q _ (.ok instances) => if q.name = name then some instances else none
  | _ => none

/-- What the last refresh of a name to succeed has listed, and nothing if none did. -/
def latest (name : String) (history : List Event) : List ServiceInstance :=
  (history.filterMap (Event.installs? name)).getLast?.getD []

theorem latest_append_of_silent {history : List Event}
    (h : ∀ e ∈ events, e.installs? name = none) :
    latest name (history ++ events) = latest name history := by
  have hnone : events.filterMap (Event.installs? name) = [] := List.filterMap_eq_nil_iff.mpr h
  rw [latest, List.filterMap_append, hnone, List.append_nil]
  rfl

theorem latest_append_of_listed {history : List Event} {q : Query} {since : Nat}
    {instances : List ServiceInstance} :
    latest name (history ++ [.listed q since (.ok instances)]) =
      if q.name = name then instances else latest name history := by
  split
  · next heq => simp [latest, List.filterMap_append, Event.installs?, heq]
  · next hne =>
    refine latest_append_of_silent fun e he => ?_
    rw [List.mem_singleton.mp he, Event.installs?, if_neg hne]

/-- A turn leaves all snapshots as they are, or it takes in a list for one subscription. -/
theorem Turn.install_cases (h : s.Turn plan w stage events t) :
    (∀ id, t.snapshot? id = s.table.snapshot? id) ∧
      (∀ e ∈ events, ∀ name, e.installs? name = none) ∨
    ∃ q since instances, s.Asks plan q ∧ events = [.listed q since (.ok instances)] ∧
      t = s.table.install q.id instances := by
  cases h with
  | enter | complete | abandon => exact .inl ⟨fun id => snapshot?_setLoad, nofun⟩
  | hint | accept | ask | look =>
    refine .inl ⟨fun id => rfl, fun e he name => ?_⟩
    rw [List.mem_singleton.mp he]
    rfl
  | @take _ q since answer asks =>
    cases answer with
    | ok instances => exact .inr ⟨q, since, instances, asks, rfl, rfl⟩
    | error e =>
      refine .inl ⟨fun id => rfl, fun e he name => ?_⟩
      rw [List.mem_singleton.mp he]
      rfl
  | wake =>
    exact .inl ⟨fun id => snapshot?_update_of_keeps fun _ => profile_begin, nofun⟩
  | tick =>
    refine .inl ⟨fun id => snapshot?_update_of_keeps fun _ => rfl, fun e he name => ?_⟩
    rw [List.mem_singleton.mp he]
    rfl
  | _ => exact .inl ⟨fun id => rfl, nofun⟩

/-- Until the locator is destroyed, what stands under a name is what has that name. -/
theorem Placed.services_iff (h : s.Placed plan) (alive : s.table.destroyed = false)
    {id : SubscriptionId} : s.table.services[name]? = some id ↔ s.table.name? id = some name :=
  ⟨h.listed name id, h.kept alive id name⟩

/-- Subscribing shows nothing new: where there was no subscription nothing was known, and
nothing is known of a new one. -/
theorem Placed.snapshot_of_moves (h : s.Placed plan) {action : Traffic.Action} {next : Traffic}
    (hnext : Placed plan { s with traffic := next }) (moves : s.traffic.Moves action next)
    (hchore : ∀ chore, action ≠ .chore chore) (alive : s.table.destroyed = false)
    (later : next.table.destroyed = false) :
    next.table.snapshot name = s.table.snapshot name := by
  rcases Traffic.profiles_of_moves moves hchore with hsame | ⟨new, hnone, hservices, hprofile⟩
  · refine snapshot_congr (Option.ext fun id => ?_) fun id => ?_
    · rw [h.services_iff alive]
      refine (hnext.services_iff later).trans ?_
      unfold name?
      rw [table, hsame]
    · rw [snapshot?, hsame]
      rfl
  · by_cases hname : new = name
    · subst hname
      have hplace : next.table.services[new]? = some s.table.all.size := by
        rw [hservices]
        simp
      have hnew := hprofile s.table.all.size
      rw [if_pos rfl] at hnew
      rw [snapshot_of_services hplace, snapshot?, hnew, snapshot_of_none hnone]
      rfl
    · have hplace : next.table.services[name]? = s.table.services[name]? := by
        rw [hservices, Std.ExtTreeMap.getElem?_insert, if_neg fun heq => ?_]
        exact hname (Std.LawfulEqCmp.eq_of_compare heq)
      rw [snapshot_eq, snapshot_eq, hplace]
      congr 1
      refine Option.bind_congr fun id hid => ?_
      have hne : id ≠ s.table.all.size := by
        rintro rfl
        have hlisted := h.listed name _ hid
        rw [name?, profile?_size] at hlisted
        cases hlisted
      rw [snapshot?, hprofile, if_neg hne]
      rfl

/-- A list that is taken in shows under the name that was asked for, and nowhere else. -/
theorem Placed.snapshot_install (h : s.Placed plan) (alive : s.table.destroyed = false)
    {q : Query} (asks : s.Asks plan q) (instances : List ServiceInstance) :
    (s.table.install q.id instances).snapshot name =
      if q.name = name then instances else s.table.snapshot name := by
  have hname := asks.name?_eq h
  obtain ⟨profile, hprofile, -⟩ := Option.map_eq_some_iff.mp hname
  have hservices : (s.table.install q.id instances).services = s.table.services := rfl
  split
  · next heq =>
    subst heq
    have hplace := (h.services_iff alive).mpr hname
    rw [← hservices] at hplace
    rw [snapshot_of_services hplace, snapshot?_install, if_pos rfl, snapshot?, hprofile]
    rfl
  · next hne =>
    rw [snapshot_eq, snapshot_eq, hservices]
    congr 1
    refine Option.bind_congr fun id hid => ?_
    rw [snapshot?_install, if_neg]
    rintro rfl
    have hlisted := h.listed name _ hid
    rw [hname] at hlisted
    exact hne (Option.some.inj hlisted)

/-- What a step does to what is known of a provider. -/
theorem Reachable.snapshot_step (h : s.Reachable plan) (step : s.Step plan s')
    (alive : s'.table.destroyed = false) :
    s'.table.snapshot name = s.table.snapshot name ∧
        latest name s'.history = latest name s.history ∨
      ∃ q since instances, s'.history = s.history ++ [.listed q since (.ok instances)] ∧
        q.name = name ∧ s'.table.snapshot name = instances := by
  have hbefore := step.alive alive
  have hplaced := h.placed
  have hnext := hplaced.step h.sound step
  cases step with
  | @traffic action t allowed step =>
    refine .inl ⟨?_, rfl⟩
    refine hplaced.snapshot_of_moves hnext (Traffic.moves_of_step step) ?_ hbefore alive
    rintro chore rfl
    exact allowed
  | @turn w stage events t turn =>
    rcases turn.install_cases with ⟨hsame, hsilent⟩ | ⟨q, since, instances, asks, rfl, rfl⟩
    · refine .inl ⟨snapshot_congr ?_ hsame, ?_⟩
      · rw [table_turned, turn.frame.1]
      · exact latest_append_of_silent fun e he => hsilent e he name
    · rw [table_turned, hplaced.snapshot_install hbefore asks, history_turned,
        latest_append_of_listed]
      by_cases hq : q.name = name
      · exact .inr ⟨q, since, instances, rfl, hq, if_pos hq⟩
      · exact .inl ⟨if_neg hq, if_neg hq⟩
  | _ => exact .inl ⟨rfl, rfl⟩

theorem Reachable.snapshot_eq_latest (h : s.Reachable plan) (alive : s.table.destroyed = false) :
    s.table.snapshot name = latest name s.history := by
  induction h with
  | refl => rw [snapshot_of_none (by simp [start, Traffic.start])]; rfl
  | tail before step ih =>
    rcases Reachable.snapshot_step before step alive with ⟨hsame, hlatest⟩ |
      ⟨q, since, instances, hhistory, hname, hnow⟩
    · rw [hsame, hlatest]
      exact ih (step.alive alive)
    · rw [hnow, hhistory, latest_append_of_listed, if_pos hname]

/-! ## What is located -/

/-- A caller has looked at the snapshot of its target, and this is what there was. -/
def Seen (plan : Plan) (s : Activity) (k : Nat) (candidates : List ServiceInstance) : Prop :=
  ∃ before : Activity, before.Reachable plan ∧
    candidates = before.table.snapshot (plan.goals k).name ∧
    before.history ++ [.looked k candidates] <+: s.history

theorem Seen.mono {candidates : List ServiceInstance} (h : s.Seen plan k candidates)
    (grows : s.history <+: s'.history) : s'.Seen plan k candidates := by
  obtain ⟨before, hbefore, heq, hprefix⟩ := h
  exact ⟨before, hbefore, heq, hprefix.trans grows⟩

/-- An instance can be located for a call, given what the caller has seen. -/
def Fits (invocation : Invocation) (exclusions candidates : List ServiceInstance)
    (i : ServiceInstance) : Prop :=
  i ∈ candidates ∧ (∀ j ∈ exclusions, j.code ≠ i.code) ∧
    inGroup invocation.service.group i = true

theorem fits_of_select {b : Balancer} {invocation : Invocation}
    {exclusions candidates : List ServiceInstance} {i : ServiceInstance}
    (h : ((Selector.ofBalancer b).select invocation candidates exclusions).1 = some i) :
    Fits invocation exclusions candidates i := by
  have hmem : i ∈ groupRouter invocation (exclude candidates exclusions) :=
    Balancer.mem_of_select h
  obtain ⟨hleft, hgroup⟩ := mem_groupRouter.mp hmem
  obtain ⟨hcandidate, hexcluded⟩ := mem_exclude.mp hleft
  exact ⟨hcandidate, hexcluded, hgroup⟩

/-- Callers choose among what they have seen, and locate what fits. -/
structure Choices (plan : Plan) (s : Activity) : Prop where
  choosing : ∀ k candidates, s.stages (.caller k) = .choosing candidates →
    s.Seen plan k candidates
  located : ∀ k i invocation exclusions, plan.goals k = .locate invocation exclusions →
    s.stages (.caller k) = .located (some i) →
      ∃ candidates, s.Seen plan k candidates ∧ Fits invocation exclusions candidates i

/-- Steps of which the callers see nothing. -/
theorem Choices.mono (h : s.Choices plan) (grows : s.history <+: s'.history)
    (stages : ∀ k, s'.stages (.caller k) = s.stages (.caller k)) : s'.Choices plan where
  choosing k candidates hk := (h.choosing k candidates (stages k ▸ hk)).mono grows
  located k i invocation exclusions hgoal hk := by
    obtain ⟨candidates, hseen, hfits⟩ :=
      h.located k i invocation exclusions hgoal (stages k ▸ hk)
    exact ⟨candidates, hseen.mono grows, hfits⟩

/-- A caller takes a turn. -/
theorem Choices.caller (h : s.Choices plan)
    (choosing : ∀ candidates, stage = .choosing candidates →
      (s.turned (.caller k) stage events t).Seen plan k candidates)
    (located : ∀ i invocation exclusions, plan.goals k = .locate invocation exclusions →
      stage = .located (some i) →
        ∃ candidates, s.Seen plan k candidates ∧ Fits invocation exclusions candidates i) :
    (s.turned (.caller k) stage events t).Choices plan := by
  have grows : s.history <+: (s.turned (.caller k) stage events t).history :=
    List.prefix_append _ _
  refine ⟨fun k' candidates hk => ?_, fun k' i invocation exclusions hgoal hk => ?_⟩
  · rw [stages_turned] at hk
    split at hk
    · next heq =>
      cases heq
      exact choosing candidates hk
    · exact (h.choosing k' candidates hk).mono grows
  · rw [stages_turned] at hk
    have hbefore : ∃ candidates, s.Seen plan k' candidates ∧
        Fits invocation exclusions candidates i := by
      split at hk
      · next heq =>
        cases heq
        exact located i invocation exclusions hgoal hk
      · exact h.located k' i invocation exclusions hgoal hk
    obtain ⟨candidates, hseen, hfits⟩ := hbefore
    exact ⟨candidates, hseen.mono grows, hfits⟩

theorem Choices.turn (h : s.Choices plan) (reachable : s.Reachable plan)
    (turn : s.Turn plan w stage events t) : (s.turned w stage events t).Choices plan := by
  cases w with
  | refresher id =>
    refine h.mono (List.prefix_append _ _) fun k => ?_
    rw [stages_turned, if_neg nofun]
  | caller k =>
    cases turn with
    | @look _ invocation exclusions goal returned =>
      refine h.caller (fun candidates hstage => ?_) fun _ _ _ _ hstage => nomatch hstage
      cases hstage
      exact ⟨s, reachable, by rw [goal]; rfl, List.prefix_refl _⟩
    | @pick _ invocation exclusions candidates goal choosing b =>
      refine h.caller (fun _ hstage => nomatch hstage)
        fun i invocation' exclusions' goal' hstage => ?_
      rw [goal] at goal'
      cases goal'
      have hpick := Stage.located.inj hstage
      exact ⟨candidates, h.choosing k candidates choosing, fits_of_select hpick⟩
    | _ => exact h.caller (fun _ hstage => nomatch hstage) fun _ _ _ _ hstage => nomatch hstage

theorem Reachable.choices (h : s.Reachable plan) : s.Choices plan := by
  induction h with
  | refl => exact ⟨fun _ _ hk => (nomatch hk), fun _ _ _ _ _ hk => nomatch hk⟩
  | tail before step ih =>
    cases step with
    | turn turn => exact ih.turn before turn
    | _ => exact ih.mono (List.prefix_refl _) fun k => rfl

/-- **Snapshots are whole and survive failures.** Until the locator is destroyed, the snapshot of
a provider is what the last refresh of it to succeed has listed, and nothing if there was none. A
step changes a snapshot only as such a refresh of that very provider completes. What a caller
locates was in the snapshot of its target when the caller looked; it is not excluded, and it is
in the group of the service if that has one. -/
theorem snapshots_are_whole (h : s.Reachable plan) (alive : s.table.destroyed = false) :
    (∀ name, s.table.snapshot name = latest name s.history) ∧
    (∀ name s', s.Step plan s' → s'.table.destroyed = false →
      s'.table.snapshot name = s.table.snapshot name ∨
        ∃ q since instances, s'.history = s.history ++ [.listed q since (.ok instances)] ∧
          q.name = name ∧ s'.table.snapshot name = instances) ∧
    ∀ k i invocation exclusions, plan.goals k = .locate invocation exclusions →
      s.stages (.caller k) = .located (some i) →
        ∃ (before : Activity) (candidates : List ServiceInstance), before.Reachable plan ∧
          before.history ++ [.looked k candidates] <+: s.history ∧
          candidates = before.table.snapshot invocation.targetName ∧
          i ∈ candidates ∧ (∀ j ∈ exclusions, j.code ≠ i.code) ∧
          inGroup invocation.service.group i = true := by
  refine ⟨fun name => h.snapshot_eq_latest alive, fun name s' step later => ?_,
    fun k i invocation exclusions goal located => ?_⟩
  · exact (h.snapshot_step step later).imp_left And.left
  · obtain ⟨candidates, ⟨before, hbefore, heq, hprefix⟩, hfits⟩ :=
      h.choices.located k i invocation exclusions goal located
    rw [goal] at heq
    exact ⟨before, candidates, hbefore, hprefix, heq, hfits⟩

/-- The first caller loads one instance, and the second one locates it. -/
theorem greeter_is_located :
    ∃ (s : Activity) (i : ServiceInstance), s.Reachable greetings ∧
      s.stages (.caller 1) = .located (some i) ∧
      s.table.snapshot "greeter" = latest "greeter" s.history ∧
      s.table.snapshot "greeter" = [i] ∧
      (∃ (before : Activity) (candidates : List ServiceInstance), before.Reachable greetings ∧
        before.history ++ [.looked 1 candidates] <+: s.history ∧
        candidates = before.table.snapshot "greeter" ∧ i ∈ candidates) ∧
      inGroup greet.service.group i = true := by
  let i : ServiceInstance := .ofHostPort "greeter" "left" 80
  let s₁ := greeted.turned (.caller 0) .entered [] (greeted.table.setLoad 0 .running)
  let s₂ := s₁.turned (.caller 0) .returned
    [.hinted (greetings.query 0 0), .taken (greetings.query 0 0) (.ok ()),
      .asked (greetings.query 0 0), .listed (greetings.query 0 0) 2 (.ok [i])]
    ((s₁.table.receive 0 (.ok [i])).setLoad 0 .done)
  let s₃ := s₂.turned (.caller 1) .returned [] s₂.table
  let s₄ := s₃.turned (.caller 1) (.choosing [i]) [.looked 1 [i]] s₃.table
  let s₅ := s₄.turned (.caller 1) (.located (some i)) [] s₄.table
  have hnew : greeted.table.get? 0 = some { name := "greeter" } := rfl
  have hloaded : s₂.table.get? 0 =
      some { name := "greeter", load := .done, snapshot := [i] } := rfl
  have hgoal : greetings.goals 1 = .locate greet [] := rfl
  have hpick : ((Selector.ofBalancer .fresh).select greet [i] []).1 = some i := rfl
  have h₁ : s₁.Reachable greetings := greeted_reachable.tail (.turn (.enter rfl rfl hnew rfl))
  have h₂ : s₂.Reachable greetings := h₁.trans (finish_entered rfl (.ok [i]) (.ok ()) rfl)
  have h₃ : s₃.Reachable greetings := h₂.tail (.turn (.arrive rfl rfl hloaded rfl))
  have h₄ : s₄.Reachable greetings := h₃.tail (.turn (.look hgoal rfl))
  have h₅ : s₅.Reachable greetings := by
    refine h₄.tail (.turn ?_)
    rw [← hpick]
    exact .pick hgoal rfl .fresh
  obtain ⟨hlatest, -, hlocated⟩ := snapshots_are_whole h₅ rfl
  obtain ⟨before, candidates, hbefore, hprefix, heq, hmem, -, hgroup⟩ :=
    hlocated 1 i greet [] hgoal rfl
  exact ⟨s₅, i, h₅, rfl, hlatest "greeter", rfl, ⟨before, candidates, hbefore, hprefix, heq, hmem⟩,
    hgroup⟩

end Activity

end RemoteCall
