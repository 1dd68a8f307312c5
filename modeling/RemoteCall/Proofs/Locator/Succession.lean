/-
In which order the lists of a provider are taken in.

A question stands in the history where it was asked, and its answer refers to that place, so
lists can be told apart by their age. A refresher asks anew only once it has taken in the
answer before, which keeps its lists in order (`Ordered`). The caller that loads asks on its
own account. It may overlap with the refresher, and whichever of the two lists comes in last
stays.

* `Activity.older_list_replaces_newer` — a load that takes longer than the interval.
* `Activity.refreshes_stay_in_order` — a snapshot goes back once at most, and only between
  the list of the load and one of the refresher.
-/
import RemoteCall.Proofs.Locator.FirstLoad
import RemoteCall.Proofs.Locator.Snapshots

namespace RemoteCall

namespace Activity

open Subscriptions

variable {plan : Plan} {s s' : Activity} {w : Worker} {stage : Stage} {events : List Event}
  {t : Subscriptions} {id : SubscriptionId}

/-! ## Installs -/

/-- A list that replaced a snapshot, with the question that it answers and the place where that
was asked. -/
structure Install where
  query : Query
  since : Nat
  instances : List ServiceInstance

def Event.install? (id : SubscriptionId) : Event → Option Install
  | .listed q since (.ok instances) => if q.id = id then some ⟨q, since, instances⟩ else none
  | _ => none

/-- The lists that a subscription has had, in the order of their coming in. -/
def installs (id : SubscriptionId) (history : List Event) : List Install :=
  history.filterMap (Event.install? id)

theorem installs_append {first more : List Event} :
    installs id (first ++ more) = installs id first ++ installs id more :=
  List.filterMap_append

theorem install?_eq_some {e : Event} {x : Install} :
    e.install? id = some x ↔ x.query.id = id ∧ e = .listed x.query x.since (.ok x.instances) := by
  constructor
  · intro h
    unfold Event.install? at h
    split at h
    · split at h
      · next hid =>
        cases h
        exact ⟨hid, rfl⟩
      · cases h
    · cases h
  · rintro ⟨rfl, rfl⟩
    exact if_pos rfl

theorem mem_installs {history : List Event} {x : Install} :
    x ∈ installs id history ↔ x.query.id = id ∧
      ∃ n : Nat, history[n]? = some (Event.listed x.query x.since (.ok x.instances)) := by
  rw [installs, List.mem_filterMap]
  constructor
  · rintro ⟨e, he, hx⟩
    obtain ⟨hid, rfl⟩ := install?_eq_some.mp hx
    exact ⟨hid, List.mem_iff_getElem?.mp he⟩
  · rintro ⟨hid, n, hn⟩
    exact ⟨_, List.mem_of_getElem? hn, install?_eq_some.mpr ⟨hid, rfl⟩⟩

theorem installs_eq_nil (h : ∀ e ∈ events, ∀ q since answer, e ≠ .listed q since answer) :
    installs id events = [] := by
  refine List.filterMap_eq_nil_iff.mpr fun e he => ?_
  rw [Option.eq_none_iff_forall_ne_some]
  intro x hx
  exact h e he _ _ _ (install?_eq_some.mp hx).2

/-! ## Questions and answers -/

/-- A worker has one question at a time. -/
theorem Asks.unique {q q' : Query} (h : s.Asks plan q) (h' : s.Asks plan q')
    (who : q.worker = q'.worker) : q = q' := by
  cases h with
  | caller got =>
    cases h' with
    | caller got' =>
      cases who
      obtain rfl := Cells.got_unique got got'
      rfl
    | refresher => cases who
  | refresher get =>
    cases h' with
    | caller => cases who
    | refresher get' =>
      cases who
      rw [get] at get'
      cases get'
      rfl

/-- A refresher asks for its own subscription. -/
theorem Asks.worker_eq {q : Query} (h : s.Asks plan q) (who : q.isLoad = false) :
    q.worker = .refresher q.id := by
  cases h with
  | caller => cases who
  | refresher => rfl

theorem Asks.step {q : Query} (h : s.Asks plan q) (step : s.Step plan s') : s'.Asks plan q := by
  cases h with
  | caller got => exact .caller (step.subscribed got)
  | @refresher id sub get =>
    obtain ⟨profile, hprofile, hname⟩ :=
      Option.map_eq_some_iff.mp (step.name?_eq (name?_of_get? get))
    obtain ⟨later, hlater, rfl⟩ := Option.map_eq_some_iff.mp hprofile
    exact .of_get? hlater hname

/-- Where the question stands that a worker has no list for yet. -/
def Stage.since? : Stage → Option Nat
  | listing since => some since
  | answered since _ => some since
  | _ => none

/-- What a turn is to the questions of its worker. -/
inductive Inquiry (plan : Plan) (s : Activity) (w : Worker) (stage : Stage)
    (events : List Event) : Prop where
  | aside (since : stage.since? = none ∨ stage.since? = (s.stages w).since?)
    (silent : ∀ e ∈ events, ∀ q since answer, e ≠ .listed q since answer)
  | ask {q : Query} (asks : s.Asks plan q) (who : q.worker = w)
    (listing : stage = .listing s.history.length) (asked : events = [.asked q])
  | take {q : Query} {since : Nat} {answer : Except String (List ServiceInstance)}
    (asks : s.Asks plan q) (who : q.worker = w) (before : (s.stages w).since? = some since)
    (after : stage.since? = none) (listed : events = [.listed q since answer])

theorem Turn.inquiry (h : s.Turn plan w stage events t) : s.Inquiry plan w stage events := by
  cases h with
  | hint | accept | look =>
    refine .aside (.inl rfl) fun e he q since answer => ?_
    rw [List.mem_singleton.mp he]
    nofun
  | ask asks who | tick asks who => exact .ask asks who rfl rfl
  | answer listing => exact .aside (.inr (by rw [listing]; rfl)) nofun
  | take asks who answered =>
    refine .take asks who (by rw [answered]; rfl) ?_ rfl
    cases w <;> rfl
  | wake _ idle => exact .aside (.inl rfl) nofun
  | _ => exact .aside (.inl rfl) nofun

/-- Lists that refreshers have asked for come in, in the order of asking. -/
structure Ordered (plan : Plan) (s : Activity) : Prop where
  asked : ∀ w since, (s.stages w).since? = some since →
    ∃ q, s.Asks plan q ∧ q.worker = w ∧ s.history[since]? = some (Event.asked q)
  listed : ∀ n q since answer, s.history[n]? = some (Event.listed q since answer) →
    since < n ∧ s.history[since]? = some (Event.asked q)
  behind : ∀ id since, (s.stages (.refresher id)).since? = some since →
    ∀ x ∈ installs id s.history, x.query.isLoad = false → x.since < since
  sorted : ∀ id, (installs id s.history).Pairwise fun earlier later =>
    earlier.query.isLoad = false → later.query.isLoad = false → earlier.since < later.since

theorem start_ordered : start.Ordered plan where
  asked w since h := nomatch h
  listed n q since answer h := by simp [start] at h
  behind id since h := nomatch h
  sorted id := .nil

/-- What stands in the history stays there. -/
theorem getElem?_of_prefix {first more : List Event} {n : Nat} {e : Event}
    (h : first[n]? = some e) : (first ++ more)[n]? = some e := by
  have hlt := (List.getElem?_eq_some_iff.mp h).1
  rw [List.getElem?_append_left hlt]
  exact h

/-- What was taken in so far had been asked before. -/
theorem Ordered.listed_append (h : s.Ordered plan) {n since : Nat} {q : Query}
    {answer : Except String (List ServiceInstance)}
    (hn : (s.history ++ events)[n]? = some (.listed q since answer)) :
    since < n ∧ (s.history ++ events)[since]? = some (.asked q) ∨
      s.history.length ≤ n ∧ .listed q since answer ∈ events := by
  rw [List.getElem?_append] at hn
  split at hn
  · obtain ⟨hsince, hasked⟩ := h.listed n q since answer hn
    exact .inl ⟨hsince, getElem?_of_prefix hasked⟩
  · next hge => exact .inr ⟨by omega, List.mem_of_getElem? hn⟩

/-- A turn that takes in nothing, and after which the worker waits for what it has waited for
before, or for what it asks now. -/
theorem Ordered.of_silent (h : s.Ordered plan) (step : s.Step plan (s.turned w stage events t))
    (silent : ∀ e ∈ events, ∀ q since answer, e ≠ .listed q since answer)
    (since : ∀ n, stage.since? = some n → (s.stages w).since? = some n ∨
      n = s.history.length ∧ ∃ q, s.Asks plan q ∧ q.worker = w ∧ events = [.asked q]) :
    (s.turned w stage events t).Ordered plan := by
  have hinstalls : ∀ id, installs id (s.turned w stage events t).history =
      installs id s.history := by
    intro id
    rw [history_turned, installs_append, installs_eq_nil silent, List.append_nil]
  refine ⟨fun w' n hn => ?_, fun n q n' answer hn => ?_, fun id n hn x hx hload => ?_,
    fun id => ?_⟩
  · have hold : (s.stages w').since? = some n →
        ∃ q, (s.turned w stage events t).Asks plan q ∧ q.worker = w' ∧
          (s.turned w stage events t).history[n]? = some (Event.asked q) := by
      intro hbefore
      obtain ⟨q, hasks, hwho, hasked⟩ := h.asked w' n hbefore
      exact ⟨q, hasks.step step, hwho, getElem?_of_prefix hasked⟩
    rw [stages_turned] at hn
    split at hn
    · next heq =>
      subst heq
      rcases since n hn with hbefore | ⟨rfl, q, hasks, hwho, rfl⟩
      · exact hold hbefore
      · refine ⟨q, hasks.step step, hwho, ?_⟩
        rw [history_turned, List.getElem?_append_right (Nat.le_refl _), Nat.sub_self]
        rfl
    · exact hold hn
  · rcases h.listed_append hn with hbefore | ⟨-, hnow⟩
    · exact hbefore
    · exact absurd rfl (silent _ hnow q n' answer)
  · rw [hinstalls] at hx
    rw [stages_turned] at hn
    split at hn
    · next heq =>
      subst heq
      rcases since n hn with hbefore | ⟨rfl, -⟩
      · exact h.behind id n hbefore x hx hload
      · -- Whatever came in so far was asked for before.
        obtain ⟨-, place, hplace⟩ := mem_installs.mp hx
        have hsince := (h.listed _ _ _ _ hplace).1
        have hlt := (List.getElem?_eq_some_iff.mp hplace).1
        omega
    · exact h.behind id n hn x hx hload
  · rw [hinstalls]
    exact h.sorted id

/-- A worker takes in the answer to what it has asked. -/
theorem Ordered.take (h : s.Ordered plan) {q : Query} {since : Nat}
    {answer : Except String (List ServiceInstance)}
    (step : s.Step plan (s.turned w stage [.listed q since answer] t)) (asks : s.Asks plan q)
    (who : q.worker = w) (before : (s.stages w).since? = some since)
    (after : stage.since? = none) :
    (s.turned w stage [.listed q since answer] t).Ordered plan := by
  obtain ⟨q', hasks', hwho', hasked⟩ := h.asked w since before
  obtain rfl : q = q' := asks.unique hasks' (who.trans hwho'.symm)
  have hothers : ∀ w' n, ((s.turned w stage [.listed q since answer] t).stages w').since? = some n →
      w' ≠ w ∧ (s.stages w').since? = some n := by
    intro w' n hn
    rw [stages_turned] at hn
    split at hn
    · rw [after] at hn
      cases hn
    · next hne => exact ⟨hne, hn⟩
  have hinstalled : ∀ id x, x ∈ installs id [.listed q since answer] →
      x.query = q ∧ x.since = since ∧ q.id = id := by
    intro id x hx
    obtain ⟨hid, place, hplace⟩ := mem_installs.mp hx
    have hevent := List.mem_singleton.mp (List.mem_of_getElem? hplace)
    cases hevent
    exact ⟨rfl, rfl, hid⟩
  refine ⟨fun w' n hn => ?_, fun n q' n' answer' hn => ?_, fun id n hn x hx hload => ?_,
    fun id => ?_⟩
  · obtain ⟨q', hq', hwho', hold⟩ := h.asked w' n (hothers w' n hn).2
    exact ⟨q', hq'.step step, hwho', getElem?_of_prefix hold⟩
  · rcases h.listed_append hn with hbefore | ⟨hge, hnow⟩
    · exact hbefore
    · cases List.mem_singleton.mp hnow
      have hlt := (List.getElem?_eq_some_iff.mp hasked).1
      exact ⟨by omega, getElem?_of_prefix hasked⟩
  · obtain ⟨hne, hwaits⟩ := hothers _ n hn
    rw [history_turned, installs_append, List.mem_append] at hx
    rcases hx with hold | hnew
    · exact h.behind id n hwaits x hold hload
    · obtain ⟨hquery, -, hid⟩ := hinstalled id x hnew
      rw [hquery] at hload
      exact absurd (by rw [← who, asks.worker_eq hload, hid]) hne
  · rw [history_turned, installs_append, List.pairwise_append]
    refine ⟨h.sorted id, ?_, fun x hx y hy hxload hyload => ?_⟩
    · unfold installs
      rw [List.filterMap_cons]
      split <;> simp
    · obtain ⟨hquery, hsince, hid⟩ := hinstalled id y hy
      rw [hquery] at hyload
      have hw : w = .refresher id := by rw [← who, asks.worker_eq hyload, hid]
      rw [hsince]
      exact h.behind id since (hw ▸ before) x hx hxload

theorem Ordered.turn (h : s.Ordered plan) (turn : s.Turn plan w stage events t) :
    (s.turned w stage events t).Ordered plan := by
  cases turn.inquiry with
  | aside since silent =>
    refine h.of_silent (.turn turn) silent fun n hn => .inl ?_
    rcases since with hnone | hsame
    · rw [hnone] at hn
      cases hn
    · rw [← hsame, hn]
  | ask asks who listing asked =>
    subst listing asked
    refine h.of_silent (.turn turn) (fun e he q since answer => ?_) fun n hn => .inr ?_
    · rw [List.mem_singleton.mp he]
      nofun
    · exact ⟨(Option.some.inj hn).symm, _, asks, who, rfl⟩
  | take asks who before after listed =>
    subst listed
    exact h.take (.turn turn) asks who before after

theorem Reachable.ordered (h : s.Reachable plan) : s.Ordered plan := by
  induction h with
  | refl => exact start_ordered
  | @tail s s' before step ih =>
    have hsame : s'.stages = s.stages → s'.history = s.history → s'.Ordered plan := by
      intro hstages hhistory
      refine ⟨fun w since hw => ?_, ?_, ?_, ?_⟩
      · rw [hstages] at hw
        obtain ⟨q, hasks, hwho, hasked⟩ := ih.asked w since hw
        exact ⟨q, hasks.step step, hwho, hhistory ▸ hasked⟩
      · rw [hhistory]
        exact ih.listed
      · rw [hstages, hhistory]
        exact ih.behind
      · rw [hhistory]
        exact ih.sorted
    cases step with
    | turn turn => exact ih.turn turn
    | _ => exact hsame rfl rfl

/-! ## Going back -/

/-- How often something is followed by something smaller. -/
def setbacks : List Nat → Nat
  | first :: second :: rest => (if second < first then 1 else 0) + setbacks (second :: rest)
  | _ => 0

theorem setbacks_of_sorted {l : List Nat} (h : l.Pairwise (· < ·)) : setbacks l = 0 := by
  induction l with
  | nil => rfl
  | cons first l ih =>
    cases l with
    | nil => rfl
    | cons second rest =>
      obtain ⟨hfirst, hrest⟩ := List.pairwise_cons.mp h
      have hlt := hfirst second List.mem_cons_self
      rw [setbacks, ih hrest, if_neg (by omega)]

/-- One that is out of order makes for one setback at most: either it is too small for what is
before it, or too great for what is behind it. -/
theorem setbacks_insert_le {first more : List Nat} (h : (first ++ more).Pairwise (· < ·))
    (x : Nat) : setbacks (first ++ x :: more) ≤ 1 := by
  induction first with
  | nil =>
    cases more with
    | nil => exact Nat.zero_le 1
    | cons y more =>
      have hsorted : setbacks (y :: more) = 0 := setbacks_of_sorted h
      rw [List.nil_append, setbacks, hsorted]
      split <;> omega
  | cons a first ih =>
    obtain ⟨ha, hrest⟩ := List.pairwise_cons.mp h
    have hih := ih hrest
    cases first with
    | cons b first =>
      have hlt := ha b List.mem_cons_self
      rw [List.cons_append, List.cons_append, setbacks, if_neg (by omega)]
      rw [List.cons_append] at hih
      omega
    | nil =>
      cases more with
      | nil =>
        show (if x < a then 1 else 0) + 0 ≤ 1
        split <;> omega
      | cons y more =>
        have hlt := ha y List.mem_cons_self
        have hsorted : setbacks (y :: more) = 0 := setbacks_of_sorted hrest
        show (if x < a then 1 else 0) + ((if y < x then 1 else 0) + setbacks (y :: more)) ≤ 1
        rw [hsorted]
        split <;> split <;> omega

/-- Where at most one list is that of a load and the others are in order, there is one setback at
most. -/
theorem setbacks_le_one {l : List Install}
    (sorted : l.Pairwise fun earlier later => earlier.query.isLoad = false →
      later.query.isLoad = false → earlier.since < later.since)
    (loads : l.countP (·.query.isLoad) ≤ 1) : setbacks (l.map (·.since)) ≤ 1 := by
  have hordered : ∀ {l : List Install}, (l.Pairwise fun earlier later =>
      earlier.query.isLoad = false → later.query.isLoad = false → earlier.since < later.since) →
      (∀ x ∈ l, x.query.isLoad = false) → (l.map (·.since)).Pairwise (· < ·) := by
    intro l hl hnone
    refine List.pairwise_map.mpr (hl.imp_of_mem fun hx hy hlt => hlt (hnone _ hx) (hnone _ hy))
  by_cases hload : ∃ x ∈ l, x.query.isLoad = true
  · obtain ⟨x, hx, hxload⟩ := hload
    obtain ⟨first, more, rfl⟩ := List.append_of_mem hx
    rw [List.countP_append, List.countP_cons, if_pos hxload] at loads
    have hfirst : first.countP (·.query.isLoad) = 0 := by omega
    have hmore : more.countP (·.query.isLoad) = 0 := by omega
    have hsublist : (first ++ more).Sublist (first ++ x :: more) :=
      List.Sublist.append_left (List.sublist_cons_self x more) first
    have hnone : ∀ y ∈ first ++ more, y.query.isLoad = false := by
      intro y hy
      rcases List.mem_append.mp hy with hy | hy
      · simpa using List.countP_eq_zero.mp hfirst y hy
      · simpa using List.countP_eq_zero.mp hmore y hy
    have hrest := hordered (sorted.sublist hsublist) hnone
    rw [List.map_append] at hrest
    rw [List.map_append, List.map_cons]
    exact setbacks_insert_le hrest x.since
  · have hnone : ∀ x ∈ l, x.query.isLoad = false := by
      intro x hx
      by_contra hne
      exact hload ⟨x, hx, by simpa using hne⟩
    rw [setbacks_of_sorted (hordered sorted hnone)]
    exact Nat.zero_le 1

/-- Two lists are in order, or one is that of the load and the other is not. -/
theorem pairwise_of_loads {l : List Install}
    (sorted : l.Pairwise fun earlier later => earlier.query.isLoad = false →
      later.query.isLoad = false → earlier.since < later.since)
    (loads : l.countP (·.query.isLoad) ≤ 1) :
    l.Pairwise fun earlier later => earlier.since < later.since ∨
      earlier.query.isLoad ≠ later.query.isLoad := by
  induction l with
  | nil => exact .nil
  | cons x l ih =>
    obtain ⟨hx, hl⟩ := List.pairwise_cons.mp sorted
    rw [List.countP_cons] at loads
    refine .cons (fun y hy => ?_) (ih hl (by omega))
    cases hxload : x.query.isLoad with
    | false =>
      cases hyload : y.query.isLoad with
      | false => exact .inl (hx y hy hxload hyload)
      | true => exact .inr nofun
    | true =>
      rw [hxload, if_pos rfl] at loads
      have hnone : l.countP (·.query.isLoad) = 0 := by omega
      have hyload : y.query.isLoad = false := by simpa using List.countP_eq_zero.mp hnone y hy
      rw [hyload]
      exact .inr nofun

/-- A load takes in one list at most, whoever is dropped. -/
theorem Reachable.countP_loads (h : s.Reachable plan) (id : SubscriptionId) :
    (installs id s.history).countP (·.query.isLoad) ≤ 1 := by
  refine Nat.le_trans ?_ ((h.tallied (.inl rfl)).le_one h.cells id)
  rw [installs, List.countP_filterMap]
  refine List.countP_mono_left fun e _ he => ?_
  cases hx : e.install? id with
  | none =>
    rw [hx] at he
    cases he
  | some x =>
    obtain ⟨hid, rfl⟩ := install?_eq_some.mp hx
    rw [hx] at he
    have hload : x.query.isLoad = true := he
    simp [Event.isMark, ofId, hid, hload]

/-- Until the locator is destroyed, what is known of a provider is the list that came in last. -/
theorem Reachable.snapshot_eq_last (h : s.Reachable plan) (alive : s.table.destroyed = false)
    {name : String} (hid : s.table.name? id = some name) :
    s.table.snapshot name = ((installs id s.history).getLast?.map (·.instances)).getD [] := by
  rw [h.snapshot_eq_latest alive, latest, ← List.getLast?_map, installs, List.map_filterMap]
  congr 2
  refine List.filterMap_congr fun e he => ?_
  cases e with
  | listed q since answer =>
    cases answer with
    | ok instances =>
      have hname := h.named _ he q rfl
      by_cases hq : q.id = id
      · rw [hq, hid] at hname
        simp [Event.installs?, Event.install?, hq, (Option.some.inj hname).symm]
      · have hne : q.name ≠ name := by
          rintro rfl
          exact hq (h.placed.id_eq alive hname hid)
        simp [Event.installs?, Event.install?, hq, hne]
    | error e => rfl
  | _ => rfl

/-- The refresher has asked and been answered while the first load waits for its answer, which is
older, and comes in last. -/
def overtaken (old new : ServiceInstance) : Activity :=
  let entered := delayed.turned (.caller 0) .entered [] (delayed.table.setLoad 0 .running)
  let loading := entered.turned (.caller 0) (.listing 2)
    [.hinted (greetings.query 0 0), .taken (greetings.query 0 0) (.ok ()),
      .asked (greetings.query 0 0)]
    entered.table
  let refreshed := loading.turned (.refresher 0) .idle
    [.asked ⟨.refresher 0, 0, "greeter"⟩, .listed ⟨.refresher 0, 0, "greeter"⟩ 3 (.ok [new])]
    ((loading.table.update 0 fun sub =>
      { sub with refresher := .due (greetings.dueAfter loading.now 30000) }).install 0 [new])
  refreshed.turned (.caller 0) .loaded [.listed (greetings.query 0 0) 2 (.ok [old])]
    (refreshed.table.install 0 [old])

theorem overtaken_reachable (old new : ServiceInstance) :
    (overtaken old new).Reachable greetings := by
  let entered := delayed.turned (.caller 0) .entered [] (delayed.table.setLoad 0 .running)
  let loading := entered.turned (.caller 0) (.listing 2)
    [.hinted (greetings.query 0 0), .taken (greetings.query 0 0) (.ok ()),
      .asked (greetings.query 0 0)]
    entered.table
  let refreshed := loading.turned (.refresher 0) .idle
    [.asked ⟨.refresher 0, 0, "greeter"⟩, .listed ⟨.refresher 0, 0, "greeter"⟩ 3 (.ok [new])]
    ((loading.table.update 0 fun sub =>
      { sub with refresher := .due (greetings.dueAfter loading.now 30000) }).install 0 [new])
  have hnew : delayed.table.get? 0 = some { name := "greeter", refresher := .due 30000 } := rfl
  have hdue : loading.table.get? 0 =
      some { name := "greeter", load := .running, refresher := .due 30000 } := rfl
  have hready : 30000 ≤ loading.now := Nat.le_add_left 30000 0
  have hentered : Runs greetings delayed entered := .single (.turn (.enter rfl rfl hnew rfl))
  have hloading : Runs greetings entered loading := ask_entered rfl (.ok ()) rfl
  have hrefreshed : Runs greetings loading refreshed :=
    tick_answered hdue rfl rfl hready (.ok [new])
  have hovertaken : Runs greetings refreshed (overtaken old new) :=
    take_listing rfl (.ok [old]) rfl
  exact (((delayed_reachable.trans hentered).trans hloading).trans hrefreshed).trans hovertaken

/-- The newer list was there first. -/
theorem older_list_replaces_newer :
    ∃ (s : Activity) (old new : ServiceInstance), s.Reachable greetings ∧
      s.table.destroyed = false ∧ old ≠ new ∧
      installs 0 s.history =
        [⟨⟨.refresher 0, 0, "greeter"⟩, 3, [new]⟩, ⟨greetings.query 0 0, 2, [old]⟩] ∧
      s.table.snapshot "greeter" = [old] ∧
      ¬ (installs 0 s.history).Pairwise fun earlier later => earlier.since < later.since := by
  let old : ServiceInstance := .ofHostPort "greeter" "left" 80
  let new : ServiceInstance := .ofHostPort "greeter" "right" 80
  have hinstalls : installs 0 (overtaken old new).history =
      [⟨⟨.refresher 0, 0, "greeter"⟩, 3, [new]⟩, ⟨greetings.query 0 0, 2, [old]⟩] := rfl
  refine ⟨overtaken old new, old, new, overtaken_reachable old new, rfl, ?_, hinstalls, rfl, ?_⟩
  · simp [old, new, ServiceInstance.ofHostPort]
  · rw [hinstalls]
    simp

/-- **A snapshot goes back once at most.** Two lists of a subscription came in as they were asked
for, or one of them is that of the load and the other one is not; and a load takes in one list at
most. So only once is a list replaced by one that was asked for earlier. What is known of a
provider is the list that came in last, and every list is an answer to a question that stands in
the history. -/
theorem refreshes_stay_in_order (h : s.Reachable plan) (id : SubscriptionId) :
    (installs id s.history).Pairwise (fun earlier later => earlier.since < later.since ∨
      earlier.query.isLoad ≠ later.query.isLoad) ∧
    (installs id s.history).countP (·.query.isLoad) ≤ 1 ∧
    setbacks ((installs id s.history).map (·.since)) ≤ 1 ∧
    (∀ x ∈ installs id s.history,
      x.query.id = id ∧ s.history[x.since]? = some (Event.asked x.query)) ∧
    (s.table.destroyed = false → ∀ name, s.table.name? id = some name →
      s.table.snapshot name = ((installs id s.history).getLast?.map (·.instances)).getD []) := by
  have hordered := h.ordered
  have hloads := h.countP_loads id
  refine ⟨pairwise_of_loads (hordered.sorted id) hloads, hloads,
    setbacks_le_one (hordered.sorted id) hloads, fun x hx => ?_,
    fun alive name hid => h.snapshot_eq_last alive hid⟩
  obtain ⟨hid, n, hn⟩ := mem_installs.mp hx
  exact ⟨hid, (hordered.listed n _ _ _ hn).2⟩

/-- The list of the load has replaced a newer one here, and that is the one setback. -/
theorem overtaken_goes_back_once :
    ∃ s : Activity, s.Reachable greetings ∧
      (installs 0 s.history).map (·.since) = [3, 2] ∧
      setbacks ((installs 0 s.history).map (·.since)) ≤ 1 ∧
      (installs 0 s.history).countP (·.query.isLoad) ≤ 1 ∧
      s.table.snapshot "greeter" =
        ((installs 0 s.history).getLast?.map (·.instances)).getD [] := by
  let old : ServiceInstance := .ofHostPort "greeter" "left" 80
  let new : ServiceInstance := .ofHostPort "greeter" "right" 80
  have hreachable := overtaken_reachable old new
  obtain ⟨-, hloads, hsetbacks, -, hlast⟩ := refreshes_stay_in_order hreachable 0
  exact ⟨overtaken old new, hreachable, rfl, hsetbacks, hloads, hlast rfl "greeter" rfl⟩

end Activity

end RemoteCall
