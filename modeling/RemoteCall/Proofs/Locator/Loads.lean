/-
Who loads a subscription.

Whoever comes first to a new subscription loads it, and everyone else waits. Which caller
that is can be told from the subscription (`Cells`). A load leaves a hint, a listing and a
result in the history, and callers may be dropped in the middle of it; then the next one
loads from the start.

* `Turn.bearing` — what each turn is to the load of a subscription. Whatever is said of
  loads is said of these five kinds of turns.
-/
import RemoteCall.Proofs.Locator.Placement

namespace RemoteCall

namespace Subscriptions

variable {t : Subscriptions} {id id' : SubscriptionId}

theorem load?_setLoad {load : LoadState} :
    (t.setLoad id load).load? id' =
      if id = id' then (t.load? id').map fun _ => load else t.load? id' := by
  unfold load?
  rw [profile?_setLoad]
  split
  · rw [Option.map_map, Option.map_map]
    rfl
  · rfl

theorem load?_setLoad_ne {load : LoadState} (h : id ≠ id') :
    (t.setLoad id load).load? id' = t.load? id' := by
  rw [load?_setLoad, if_neg h]

theorem load?_setLoad_self {load before : LoadState} (h : t.load? id = some before) :
    (t.setLoad id load).load? id = some load := by
  rw [load?_setLoad, if_pos rfl, h, Option.map_some]

theorem load?_receive {answer : Except String (List ServiceInstance)} :
    (t.receive id answer).load? id' = t.load? id' := by
  cases answer with
  | ok instances =>
    unfold receive load?
    simp only
    rw [profile?_install]
    split
    · rw [Option.map_map]
      rfl
    · rfl
  | error e => rfl

theorem load?_update_of_keeps {change : Subscription → Subscription}
    (h : ∀ sub, (change sub).profile = sub.profile) :
    (t.update id change).load? id' = t.load? id' := by
  rw [load?, profile?_update_of_keeps h]
  rfl

end Subscriptions

namespace Activity

open Subscriptions

variable {plan : Plan} {s s' : Activity} {w : Worker} {stage : Stage} {events : List Event}
  {t : Subscriptions} {k k' : Nat} {id id' : SubscriptionId}

/-! ## Marks of a load -/

/-- It is up to the caller to load its subscription, and it has not done so yet. -/
def Stage.loads : Stage → Bool
  | entered | hinting | hinted | listing _ | answered _ _ | loaded => true
  | _ => false

/-- The subscribe of the caller has returned. -/
def Stage.isReturned : Stage → Bool
  | returned | choosing _ | located _ => true
  | _ => false

/-- What a load leaves in the history. -/
inductive Mark where
  | hint
  | list
  | result
deriving DecidableEq, Repr

/-- A question is asked by a caller that loads. -/
def Query.isLoad (q : Query) : Bool :=
  match q.worker with
  | .caller _ => true
  | .refresher _ => false

/-- An event is a mark of a load, and its question is one of those that count. -/
def Event.isMark (m : Mark) (counts : Query → Bool) : Event → Bool
  | .hinted q => m = .hint && q.isLoad && counts q
  | .taken _ _ => false
  | .asked q => m = .list && q.isLoad && counts q
  | .listed q _ _ => m = .result && q.isLoad && counts q
  | .looked _ _ => false

/-- How often a history has a mark. -/
def tally (m : Mark) (counts : Query → Bool) (history : List Event) : Nat :=
  history.countP (Event.isMark m counts)

/-- Questions for a subscription. -/
def ofId (id : SubscriptionId) (q : Query) : Bool := q.id = id

/-- Questions under a name. -/
def ofName (name : String) (q : Query) : Bool := q.name = name

/-- How often a load has left a mark by the time its caller has come to a stage. -/
def Stage.tally (m : Mark) : Stage → Nat
  | hinting | hinted => if m = .hint then 1 else 0
  | listing _ | answered _ _ => if m = .result then 0 else 1
  | loaded => 1
  | _ => 0

theorem tally_append {m : Mark} {counts : Query → Bool} {first more : List Event} :
    tally m counts (first ++ more) = tally m counts first + tally m counts more :=
  List.countP_append

/-! ## Turns and loads -/

/-- A caller loads a subscription. -/
def Loading (s : Activity) (k : Nat) (id : SubscriptionId) : Prop :=
  s.traffic.subscribers k = .subscribed id ∧ (s.stages (.caller k)).loads = true

/-- What a turn is to the load of a subscription. -/
inductive Bearing (s : Activity) (w : Worker) (stage : Stage) (events : List Event)
    (t : Subscriptions) : Prop where
  /-- It has nothing to do with a load, and a caller returns only if there is no need of one. -/
  | aside (load : ∀ id, t.load? id = s.table.load? id)
    (unmarked : ∀ m counts, tally m counts events = 0)
    (caller : ∀ k, w = .caller k → stage.loads = false ∧ (s.stages w).loads = false ∧
      ∃ id, s.traffic.subscribers k = .subscribed id ∧
        (stage.isReturned = true → s.table.load? id = some .done))
  /-- A caller gets on with a load. -/
  | work {k : Nat} {id : SubscriptionId} (who : w = .caller k) (loading : s.Loading k id)
    (load : ∀ id, t.load? id = s.table.load? id) (loads : stage.loads = true)
    (marked : ∀ m, (s.stages w).tally m + tally m (ofId id) events = stage.tally m)
    (unmarked : ∀ m id', id' ≠ id → tally m (ofId id') events = 0)
  | enter {k : Nat} {id : SubscriptionId} (who : w = .caller k)
    (got : s.traffic.subscribers k = .subscribed id) (idle : s.stages w = .idle)
    (pending : s.table.load? id = some .pending) (entered : stage = .entered)
    (unmarked : events = []) (load : t = s.table.setLoad id .running)
  | complete {k : Nat} {id : SubscriptionId} (who : w = .caller k)
    (got : s.traffic.subscribers k = .subscribed id) (loaded : s.stages w = .loaded)
    (returned : stage = .returned) (unmarked : events = []) (load : t = s.table.setLoad id .done)
  | abandon {k : Nat} {id : SubscriptionId} (who : w = .caller k)
    (got : s.traffic.subscribers k = .subscribed id) (awaits : (s.stages w).awaits = true)
    (cancelled : stage = .cancelled) (unmarked : events = [])
    (load : t = s.table.setLoad id .pending)

/-- Which caller loads a subscription can be told from the subscription. -/
structure Cells (s : Activity) : Prop where
  got : ∀ k, s.stages (.caller k) ≠ .idle → ∃ id, s.traffic.subscribers k = .subscribed id
  running : ∀ k id, s.Loading k id → s.table.load? id = some .running
  sole : ∀ k k' id, s.Loading k id → s.Loading k' id → k = k'
  loader : ∀ id, s.table.load? id = some .running → ∃ k, s.Loading k id
  done : ∀ k id, s.traffic.subscribers k = .subscribed id →
    (s.stages (.caller k)).isReturned = true → s.table.load? id = some .done

theorem Asks.eq_of_caller {q : Query} (h : s.Asks plan q) (who : q.worker = .caller k) :
    s.traffic.subscribers k = .subscribed q.id ∧ q.name = (plan.goals k).name ∧
      q.isLoad = true := by
  cases h with
  | caller got =>
    cases who
    exact ⟨got, rfl, rfl⟩
  | refresher => cases who

/-- A turn that a caller takes within its load, and that leaves no mark. -/
theorem Bearing.silent (hc : s.Cells) (before : (s.stages (.caller k)).loads = true)
    (loads : stage.loads = true)
    (same : ∀ m, (s.stages (.caller k)).tally m = stage.tally m)
    (unmarked : ∀ m counts, tally m counts events = 0) :
    s.Bearing (.caller k) stage events s.table := by
  obtain ⟨id, got⟩ := hc.got k fun idle => by rw [idle] at before; cases before
  refine .work rfl ⟨got, before⟩ (fun _ => rfl) loads (fun m => ?_) fun _ _ _ => unmarked _ _
  rw [unmarked, Nat.add_zero]
  exact same m

/-- What a refresher does has nothing to do with a load. -/
theorem Bearing.ofRefresher (load : ∀ id, t.load? id = s.table.load? id)
    (unmarked : ∀ m counts, tally m counts events = 0) :
    s.Bearing (.refresher id) stage events t :=
  .aside load unmarked nofun

/-- A caller that has nothing to tell neither comes from a load nor goes into one. -/
theorem Bearing.ofCaller (got : s.traffic.subscribers k = .subscribed id)
    (unmarked : ∀ m counts, tally m counts events = 0)
    (before : (s.stages (.caller k)).loads = false) (loads : stage.loads = false)
    (done : stage.isReturned = true → s.table.load? id = some .done) :
    s.Bearing (.caller k) stage events s.table := by
  refine .aside (fun _ => rfl) unmarked fun k' hk => ?_
  cases hk
  exact ⟨loads, before, id, got, done⟩

theorem tally_singleton {m : Mark} {counts : Query → Bool} {e : Event} :
    tally m counts [e] = if e.isMark m counts = true then 1 else 0 := by
  simp [tally, List.countP_cons]

theorem Turn.bearing (h : s.Turn plan w stage events t) (hc : s.Cells) :
    s.Bearing w stage events t := by
  cases h with
  | arrive got idle get done =>
    refine .ofCaller got (fun _ _ => rfl) (by rw [idle]; rfl) rfl fun _ => ?_
    rw [load?_of_get? get, done]
  | enter got idle get pending =>
    exact .enter rfl got idle (by rw [load?_of_get? get, pending]) rfl rfl rfl
  | hint asks who entered =>
    obtain ⟨got, -, hload⟩ := asks.eq_of_caller who
    refine .work rfl ⟨got, by rw [entered]; rfl⟩ (fun _ => rfl) rfl (fun m => ?_)
      fun m id' hne => ?_
    · rw [entered, tally_singleton]
      cases m <;> simp [Event.isMark, Stage.tally, hload, ofId]
    · rw [tally_singleton]
      simp [Event.isMark, ofId, hne.symm]
  | accept asks who hinting outcome =>
    exact .silent hc (by rw [hinting]; rfl) rfl (fun m => by rw [hinting]; rfl) fun _ _ => rfl
  | ask asks who hinted =>
    obtain ⟨got, -, hload⟩ := asks.eq_of_caller who
    refine .work rfl ⟨got, by rw [hinted]; rfl⟩ (fun _ => rfl) rfl (fun m => ?_)
      fun m id' hne => ?_
    · rw [hinted, tally_singleton]
      cases m <;> simp [Event.isMark, Stage.tally, hload, ofId]
    · rw [tally_singleton]
      simp [Event.isMark, ofId, hne.symm]
  | @answer w since listing answer =>
    cases w with
    | caller k =>
      exact .silent hc (by rw [listing]; rfl) rfl (fun m => by rw [listing]; rfl) fun _ _ => rfl
    | refresher id => exact .ofRefresher (fun _ => rfl) fun _ _ => rfl
  | @take w q since answer asks who answered =>
    cases w with
    | caller k =>
      obtain ⟨got, -, hload⟩ := asks.eq_of_caller who
      refine .work rfl ⟨got, by rw [answered]; rfl⟩ (fun _ => load?_receive) rfl (fun m => ?_)
        fun m id' hne => ?_
      · rw [answered, tally_singleton]
        cases m <;> simp [Event.isMark, Stage.tally, Worker.after, hload, ofId]
      · rw [tally_singleton]
        simp [Event.isMark, ofId, hne.symm]
    | refresher id =>
      refine .ofRefresher (fun _ => load?_receive) fun m counts => ?_
      rw [tally_singleton]
      simp [Event.isMark, Query.isLoad, who]
  | complete got loaded => exact .complete rfl got loaded rfl rfl rfl
  | look goal returned =>
    obtain ⟨id, got⟩ := hc.got _ fun idle => by rw [idle] at returned; cases returned
    exact .ofCaller got (fun _ _ => rfl) (by rw [returned]; rfl) rfl fun _ =>
      hc.done _ id got (by rw [returned]; rfl)
  | pick goal choosing b =>
    obtain ⟨id, got⟩ := hc.got _ fun idle => by rw [idle] at choosing; cases choosing
    exact .ofCaller got (fun _ _ => rfl) (by rw [choosing]; rfl) rfl fun _ =>
      hc.done _ id got (by rw [choosing]; rfl)
  | leave got idle => exact .ofCaller got (fun _ _ => rfl) (by rw [idle]; rfl) rfl nofun
  | abandon got awaits => exact .abandon rfl got awaits rfl rfl rfl
  | wake get idle =>
    exact .ofRefresher (fun _ => load?_update_of_keeps fun _ => profile_begin) fun _ _ => rfl
  | tick asks who idle get set ready =>
    refine .ofRefresher (fun _ => load?_update_of_keeps fun _ => rfl) fun m counts => ?_
    rw [tally_singleton]
    simp [Event.isMark, Query.isLoad, who]
  | heed idle get closed => exact .ofRefresher (fun _ => rfl) fun _ _ => rfl

/-! ## Which caller loads -/

theorem start_cells : start.Cells where
  got k h := absurd rfl h
  running k id h := nomatch h.1
  sole k k' id h := nomatch h.1
  loader id h := by simp [start, Traffic.start, load?, profile?, get?] at h
  done k id h := nomatch h

/-- Subscribing and destroying load nothing. -/
theorem load?_of_moves {s s' : Traffic} {action : Traffic.Action} (h : s.Moves action s')
    (hchore : ∀ chore, action ≠ .chore chore) (id : SubscriptionId) (load : LoadState) :
    (s.table.load? id = some load → s'.table.load? id = some load) ∧
      (s'.table.load? id = some load → load ≠ .pending → s.table.load? id = some load) := by
  unfold load?
  rcases Traffic.profiles_of_moves h hchore with hsame | ⟨name, -, -, hprofile⟩
  · rw [hsame]
    exact ⟨fun h => h, fun h _ => h⟩
  · rw [hprofile]
    split
    · next heq =>
      rw [heq, profile?_size]
      refine ⟨nofun, fun hnew hload => absurd ?_ hload⟩
      exact (Option.some.inj hnew).symm
    · exact ⟨fun h => h, fun h _ => h⟩

theorem Cells.got_unique (hgot : s.traffic.subscribers k = .subscribed id)
    (hgot' : s.traffic.subscribers k = .subscribed id') : id = id' := by
  rw [hgot] at hgot'
  exact Subscriber.subscribed.inj hgot'

/-- Whoever is past its subscribe had its subscription before. -/
theorem Cells.subscribed_of_moves (h : s.Cells) {action : Traffic.Action} {t : Traffic}
    (moves : s.traffic.Moves action t) (busy : s.stages (.caller k) ≠ .idle)
    (got : t.subscribers k = .subscribed id) : s.traffic.subscribers k = .subscribed id := by
  obtain ⟨id', hgot⟩ := h.got k busy
  have hstays := Traffic.subscribed_of_moves moves hgot
  rw [got] at hstays
  exact hstays ▸ hgot

theorem Cells.loading_of_moves (h : s.Cells) {action : Traffic.Action} {t : Traffic}
    (moves : s.traffic.Moves action t) (hl : Loading { s with traffic := t } k id) :
    s.Loading k id := by
  refine ⟨h.subscribed_of_moves moves (fun idle => ?_) hl.1, hl.2⟩
  have hloads : (s.stages (.caller k)).loads = true := hl.2
  rw [idle] at hloads
  cases hloads

theorem Cells.traffic (h : s.Cells) {action : Traffic.Action} {t : Traffic}
    (moves : s.traffic.Moves action t) (hchore : ∀ chore, action ≠ .chore chore) :
    Cells { s with traffic := t } := by
  have hload := load?_of_moves moves hchore
  refine ⟨fun k hk => ?_, fun k id hl => ?_, fun k k' id hl hl' => ?_, fun id hid => ?_,
    fun k id hgot hreturned => ?_⟩
  · obtain ⟨id, hgot⟩ := h.got k hk
    exact ⟨id, Traffic.subscribed_of_moves moves hgot⟩
  · exact (hload id _).1 (h.running k id (h.loading_of_moves moves hl))
  · exact h.sole k k' id (h.loading_of_moves moves hl) (h.loading_of_moves moves hl')
  · obtain ⟨k, hgot, hloads⟩ := h.loader id ((hload id _).2 hid nofun)
    exact ⟨k, Traffic.subscribed_of_moves moves hgot, hloads⟩
  · have hbefore := h.subscribed_of_moves moves (fun idle => ?_) hgot
    · exact (hload id _).1 (h.done k id hbefore hreturned)
    · have hstage : (s.stages (.caller k)).isReturned = true := hreturned
      rw [idle] at hstage
      cases hstage

/-- Of the turns of other workers a caller sees nothing. -/
theorem loading_turned_of_ne (h : w ≠ .caller k) :
    (s.turned w stage events t).Loading k id ↔ s.Loading k id := by
  unfold Loading
  rw [stages_turned, if_neg h.symm, subscribers_turned]

theorem loading_turned_caller (h : k ≠ k') :
    (s.turned (.caller k) stage events t).Loading k' id ↔ s.Loading k' id :=
  loading_turned_of_ne fun heq => h (Worker.caller.inj heq)

theorem loading_turned_self :
    (s.turned (.caller k) stage events t).Loading k id ↔
      s.traffic.subscribers k = .subscribed id ∧ stage.loads = true := by
  unfold Loading
  rw [stages_turned_self, subscribers_turned]

/-- A caller that has its subscription takes a turn. -/
theorem Cells.got_turned (h : s.Cells) (got : s.traffic.subscribers k = .subscribed id)
    (hk : (s.turned (.caller k) stage events t).stages (.caller k') ≠ .idle) :
    ∃ id, s.traffic.subscribers k' = .subscribed id := by
  by_cases heq : k = k'
  · exact ⟨id, heq ▸ got⟩
  · rw [stages_turned_caller heq] at hk
    exact h.got k' hk

/-- Whoever has returned has its subscription loaded, and not by a load that is not over. -/
theorem Cells.done_setLoad (h : s.Cells) {before load : LoadState}
    (got : s.traffic.subscribers k = .subscribed id) (found : s.table.load? id = some before)
    (unloaded : before ≠ .done) (done : stage.isReturned = true → load = .done)
    (got' : s.traffic.subscribers k' = .subscribed id')
    (returned : ((s.turned (.caller k) stage events (s.table.setLoad id load)).stages
      (.caller k')).isReturned = true) :
    (s.table.setLoad id load).load? id' = some .done := by
  by_cases hk : k = k'
  · subst hk
    rw [stages_turned_self] at returned
    obtain rfl := Cells.got_unique got got'
    rw [load?_setLoad_self found, done returned]
  · rw [stages_turned_caller hk] at returned
    have hdone := h.done k' id' got' returned
    refine (load?_setLoad_ne fun heq => ?_).trans hdone
    rw [← heq, found] at hdone
    exact unloaded (Option.some.inj hdone)

/-- The load of a subscription comes to its end, one way or another. -/
theorem Cells.finish (h : s.Cells) {load : LoadState} (loading : s.Loading k id)
    (stops : stage.loads = false) (load_ne : load ≠ .running)
    (done : stage.isReturned = true → load = .done) :
    (s.turned (.caller k) stage events (s.table.setLoad id load)).Cells := by
  have hrunning := h.running k id loading
  -- The others load other subscriptions.
  have hothers : ∀ k' id', (s.turned (.caller k) stage events
      (s.table.setLoad id load)).Loading k' id' → s.Loading k' id' ∧ id ≠ id' := by
    intro k' id' hl
    by_cases hk : k = k'
    · subst hk
      rw [loading_turned_self, stops] at hl
      cases hl.2
    · have hold := (loading_turned_caller hk).mp hl
      exact ⟨hold, fun heq => hk (h.sole k k' id loading (heq ▸ hold))⟩
  refine ⟨fun k' hk' => ?_, fun k' id' hl => ?_, fun k' k'' id' hl hl' => ?_, fun id' hid' => ?_,
    fun k' id' hgot hreturned => ?_⟩
  · exact h.got_turned loading.1 hk'
  · obtain ⟨hold, hne⟩ := hothers k' id' hl
    exact (load?_setLoad_ne hne).trans (h.running k' id' hold)
  · exact h.sole k' k'' id' (hothers k' id' hl).1 (hothers k'' id' hl').1
  · have hne : id ≠ id' := by
      rintro rfl
      rw [table_turned, load?_setLoad_self hrunning] at hid'
      exact load_ne (Option.some.inj hid')
    obtain ⟨k', hold⟩ := h.loader id' ((load?_setLoad_ne hne).symm.trans hid')
    refine ⟨k', (loading_turned_of_ne fun heq => ?_).mpr hold⟩
    cases heq
    exact hne (Cells.got_unique loading.1 hold.1)
  · exact h.done_setLoad loading.1 hrunning nofun done hgot hreturned

/-- A caller takes it upon itself to load a subscription that nobody loads. -/
theorem Cells.enter (h : s.Cells) (got : s.traffic.subscribers k = .subscribed id)
    (idle : s.stages (.caller k) = .idle) (pending : s.table.load? id = some .pending) :
    (s.turned (.caller k) .entered events (s.table.setLoad id .running)).Cells := by
  have hself : ∀ id', (s.turned (.caller k) .entered events
      (s.table.setLoad id .running)).Loading k id' → id = id' := fun id' hl =>
    Cells.got_unique got (loading_turned_self.mp hl).1
  -- Nobody has loaded it before, and those who load others go on with that.
  have hothers : ∀ k' id', k ≠ k' → (s.turned (.caller k) .entered events
      (s.table.setLoad id .running)).Loading k' id' → s.Loading k' id' ∧ id ≠ id' := by
    intro k' id' hk hl
    have hold := (loading_turned_caller hk).mp hl
    refine ⟨hold, fun heq => ?_⟩
    have hrunning := h.running k' id' hold
    rw [← heq, pending] at hrunning
    cases hrunning
  refine ⟨fun k' hk' => ?_, fun k' id' hl => ?_, fun k' k'' id' hl hl' => ?_, fun id' hid' => ?_,
    fun k' id' hgot hreturned => ?_⟩
  · exact h.got_turned got hk'
  · by_cases hk : k = k'
    · subst hk
      obtain rfl := hself id' hl
      exact load?_setLoad_self pending
    · obtain ⟨hold, hne⟩ := hothers k' id' hk hl
      exact (load?_setLoad_ne hne).trans (h.running k' id' hold)
  · by_cases hk : k = k' <;> by_cases hk' : k = k''
    · exact hk.symm.trans hk'
    · subst hk
      exact absurd (hself id' hl) (hothers k'' id' hk' hl').2
    · subst hk'
      exact absurd (hself id' hl') (hothers k' id' hk hl).2
    · exact h.sole k' k'' id' (hothers k' id' hk hl).1 (hothers k'' id' hk' hl').1
  · by_cases hid : id = id'
    · exact ⟨k, loading_turned_self.mpr ⟨hid ▸ got, rfl⟩⟩
    · obtain ⟨k', hold⟩ := h.loader id' ((load?_setLoad_ne hid).symm.trans hid')
      refine ⟨k', (loading_turned_of_ne fun heq => ?_).mpr hold⟩
      cases heq
      rw [Loading, idle] at hold
      cases hold.2
  · refine h.done_setLoad got pending nofun (fun hentered => ?_) hgot hreturned
    cases hentered

/-- Who loads what stays as it was. -/
theorem Cells.keep (h : s.Cells) (load : ∀ id, t.load? id = s.table.load? id)
    (caller : ∀ k, w = .caller k → stage.loads = (s.stages w).loads ∧
      ∃ id, s.traffic.subscribers k = .subscribed id ∧
        (stage.isReturned = true → s.table.load? id = some .done)) :
    (s.turned w stage events t).Cells := by
  have hsame : ∀ k id, (s.turned w stage events t).Loading k id ↔ s.Loading k id := by
    intro k id
    by_cases hw : w = .caller k
    · subst hw
      rw [loading_turned_self, (caller k rfl).1]
      rfl
    · exact loading_turned_of_ne hw
  refine ⟨fun k hk => ?_, fun k id hl => ?_, fun k k' id hl hl' => ?_, fun id hid => ?_,
    fun k id hgot hreturned => ?_⟩
  · by_cases hw : w = .caller k
    · obtain ⟨id, hgot, -⟩ := (caller k hw).2
      exact ⟨id, hgot⟩
    · rw [stages_turned, if_neg fun heq => hw heq.symm] at hk
      exact h.got k hk
  · exact (load id).trans (h.running k id ((hsame k id).mp hl))
  · exact h.sole k k' id ((hsame k id).mp hl) ((hsame k' id).mp hl')
  · obtain ⟨k, hl⟩ := h.loader id ((load id).symm.trans hid)
    exact ⟨k, (hsame k id).mpr hl⟩
  · refine (load id).trans ?_
    by_cases hw : w = .caller k
    · subst hw
      rw [stages_turned_self] at hreturned
      obtain ⟨id', hgot', hdone⟩ := (caller k rfl).2
      exact Cells.got_unique hgot' hgot ▸ hdone hreturned
    · rw [stages_turned, if_neg fun heq => hw heq.symm] at hreturned
      exact h.done k id hgot hreturned

theorem Stage.isReturned_of_loads (h : stage.loads = true) : stage.isReturned = false := by
  cases stage <;> first | rfl | cases h

theorem Stage.loads_of_awaits (h : stage.awaits = true) : stage.loads = true := by
  cases stage <;> first | rfl | cases h

/-- A caller that waits has not taken in a result. -/
theorem Stage.tally_result_of_awaits (h : stage.awaits = true) : stage.tally .result = 0 := by
  cases stage <;> first | rfl | cases h

theorem Cells.turn (h : s.Cells) (turn : s.Turn plan w stage events t) :
    (s.turned w stage events t).Cells := by
  cases turn.bearing h with
  | aside load _ caller =>
    refine h.keep load fun k hk => ?_
    obtain ⟨hloads, hbefore, hgot⟩ := caller k hk
    exact ⟨hloads.trans hbefore.symm, hgot⟩
  | @work k id who loading load loads _ _ =>
    refine h.keep load fun k' hk => ?_
    obtain rfl : k = k' := Worker.caller.inj (who.symm.trans hk)
    refine ⟨loads.trans (who ▸ loading.2).symm, id, loading.1, fun hreturned => ?_⟩
    rw [Stage.isReturned_of_loads loads] at hreturned
    cases hreturned
  | enter who got idle pending entered _ load =>
    subst who entered load
    exact h.enter got idle pending
  | complete who got loaded returned _ load =>
    subst who returned load
    exact h.finish ⟨got, by rw [loaded]; rfl⟩ rfl nofun fun _ => rfl
  | abandon who got awaits cancelled _ load =>
    subst who cancelled load
    exact h.finish ⟨got, Stage.loads_of_awaits awaits⟩ rfl nofun nofun

theorem Reachable.cells (h : s.Reachable plan) : s.Cells := by
  induction h with
  | refl => exact start_cells
  | tail _ step ih =>
    cases step with
    | @traffic action t allowed step =>
      refine ih.traffic (Traffic.moves_of_step step) ?_
      rintro chore rfl
      exact allowed
    | turn turn => exact ih.turn turn
    | _ => exact ⟨ih.got, ih.running, ih.sole, ih.loader, ih.done⟩

end Activity

end RemoteCall
