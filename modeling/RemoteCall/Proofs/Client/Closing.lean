/-
Closing a client that is in use.

Of all closes only the first one goes on to the locator. Callers look at the mark that it has set
once, before they touch anything; so a caller that looks after the first close leaves no trace but
its answer.

* `Running.Refused` — an invocation that comes too late, and stays without effect.
* `Running.closing_is_final` — all that is known of closes and invocations, for every way in
  which their steps follow each other.
-/
import RemoteCall.Proofs.Client.Callers
import RemoteCall.Proofs.Client.Closers
import RemoteCall.Proofs.Client.Surroundings

namespace RemoteCall

/-! ## Coming too late -/

namespace Stage

/-- A caller that has not passed the mark, or has its answer. -/
def Shut : Stage → Prop
  | .admitted _ _ => False
  | .made _ _ => False
  | .spawned _ _ _ => False
  | _ => True

variable {L W : Type} {there : Plugins → Prop} {c : Client L W} {i i' : Import}
  {contexts contexts' : Contexts} {stage stage' : Stage}

/-- A closed client lets nobody pass, and nobody that did not pass changes a context. -/
theorem Turn.shut (turn : Turn there c i contexts stage i' contexts' stage')
    (closed : c.closed = true) (shut : stage.Shut) :
    stage'.Shut ∧ contexts' = contexts ∧ stage'.task? = none := by
  cases turn with
  | admitted opened =>
    rw [closed] at opened
    cases opened
  | create => exact absurd shut id
  | spawn => exact absurd shut id
  | close => exact absurd shut id
  | _ => exact ⟨trivial, rfl, rfl⟩

end Stage

/-- If the invocation is on this thread, it has not passed the mark. -/
def Thread.Shut (x : Nat) (thread : Thread) : Prop :=
  ∀ caller, thread.caller = some caller → caller.call = x → caller.stage.Shut

namespace Running

variable {L W : Type} {r r' : Running L W} {deeds : List Deed} {deed : Deed}

/-- The client is closed, and the invocation has not passed its mark. -/
structure Refused (x : Nat) (r : Running L W) : Prop where
  closed : r.client.closed = true
  task : r.tasks x = none
  shut : ∀ t, (r.threads t).Shut x

namespace Refused

variable {x : Nat}

theorem of_unchecked (h : Sound r deeds) (closed : r.client.closed = true)
    (unchecked : .checked x ∉ deeds) : Refused x r where
  closed := closed
  task := by
    cases htask : r.tasks x with
    | none => rfl
    | some task => exact absurd (h.task x (by rw [htask]; rfl)) unchecked
  shut t caller busy same := by
    subst same
    obtain ⟨-, -, -, hholds⟩ := h.busy t caller busy
    generalize caller.stage = stage at hholds
    cases stage with
    | admitted _ _ => exact absurd hholds.2.1 unchecked
    | made _ _ => exact absurd hholds.2.1 unchecked
    | spawned _ _ _ => exact absurd hholds.2.1 unchecked
    | _ => trivial

variable [Locator L] {there : Plugins → Prop}

theorem closed_step (closed : r.client.closed = true) (step : Step there r deed r') :
    r'.client.closed = true := by
  cases step with
  | swap _ => rfl
  | close _ =>
    show (if deed.isDestroyed then r.client.destroyLocator else r.client).closed = true
    split <;> exact closed
  | newImport _ imported =>
    obtain ⟨-, hafter, -⟩ := imported.eq_ok
    rw [hafter]
    exact closed
  | _ => exact closed

theorem step (h : Refused x r) (step : Step there r deed r') : Refused x r' := by
  refine ⟨closed_step h.closed step, ?_, ?_⟩
  · cases step with
    | @turn t caller i i' contexts' stage' busy _ turn =>
      by_cases heq : caller.call = x
      · obtain ⟨-, -, htask⟩ := turn.shut h.closed (h.shut t caller busy heq)
        rw [← heq, tasks_turned_self, htask, heq]
        exact h.task
      · rw [tasks_turned_of_ne (Ne.symm heq)]
        exact h.task
    | _ => exact h.task
  · have hset : ∀ {t : Nat} {thread : Thread}, thread.Shut x →
        ∀ u, (Function.update r.threads t thread u).Shut x := fun hthread =>
      (Function.forall_update_iff r.threads fun _ thread => thread.Shut x).mpr
        ⟨hthread, fun u _ => h.shut u⟩
    cases step with
    | begin _ _ _ =>
      refine hset fun caller hbusy _ => ?_
      cases hbusy
      trivial
    | @turn t caller _ _ _ _ busy _ turn =>
      refine hset fun caller' hbusy same => ?_
      cases hbusy
      exact (turn.shut h.closed (h.shut t caller busy same)).1
    | leave _ _ => exact hset fun _ hbusy => nomatch hbusy
    | thread _ _ => exact hset fun _ hbusy => nomatch hbusy
    | _ => exact h.shut

theorem runs {r₀ : Running L W} (h : Refused x r₀) (run : Runs there r₀ deeds r) :
    Refused x r := by
  induction run with
  | refl => exact h
  | tail _ step ih => exact ih.step step

/-- The own steps of such an invocation change neither the client nor a context. -/
theorem frame (h : Refused x r) (step : Step there r deed r') (own : deed.caller? = some x) :
    r'.client = r.client ∧ r'.forest = r.forest ∧
      (∀ t, (r'.threads t).active = (r.threads t).active) ∧ r'.tasks = r.tasks := by
  cases step with
  | begin _ _ _ => exact ⟨rfl, rfl, fun _ => active_asking, rfl⟩
  | @turn t caller i i' contexts' stage' busy _ turn =>
    have hcall : caller.call = x := by
      generalize caller.stage = stage at own
      cases stage <;> exact Option.some.inj own
    obtain ⟨-, rfl, htask⟩ := turn.shut h.closed (h.shut t caller busy hcall)
    refine ⟨rfl, rfl, fun t' => ?_, ?_⟩
    · by_cases heq : t' = t
      · rw [heq, threads_turned_self]
        rfl
      · rw [threads_turned_of_ne heq]
    · rw [turned, htask, Option.none_or, Function.update_eq_self]
  | leave _ _ => exact ⟨rfl, rfl, fun _ => active_left, rfl⟩
  | close next => rcases next.deed_cases with rfl | rfl | rfl <;> cases own
  | _ => cases own

end Refused

/-! ## All of it -/

/-- Nobody has called or closed the client yet. -/
structure Fresh (r : Running L W) : Prop where
  opened : r.client.closed = false
  threads : ∀ t, (r.threads t).caller = none
  closers : ∀ k, r.closers k = .idle
  tasks : ∀ x, r.tasks x = none
  reports : ∀ x, r.reports x = none

theorem Fresh.tally [Locator L] (h : r.Fresh) : Tally r.client.network.shared r [] where
  locator := Handled.rel_refl _
  opened _ := ⟨h.closers, rfl⟩
  first closed := by
    rw [h.opened] at closed
    cases closed
  unique k _ first _ := by
    rw [h.closers k] at first
    cases first
  count k first := by
    rw [h.closers k] at first
    cases first
  earliest k first := by
    rw [h.closers k] at first
    cases first
  marked _ swapped := nomatch swapped
  destroyed _ destroyed := nomatch destroyed

theorem Fresh.sound (h : r.Fresh) : Sound r [] where
  busy t caller busy := by
    rw [h.threads t] at busy
    cases busy
  apart t _ caller _ busy _ _ := by
    rw [h.threads t] at busy
    cases busy
  report x report reported := by
    rw [h.reports x] at reported
    cases reported
  fresh x _ := ⟨h.tasks x, List.not_mem_nil⟩
  task x task := by
    rw [h.tasks x] at task
    cases task
  worked _ _ worked := nomatch worked

variable [Locator L] {there : Plugins → Prop}

/-- How an invocation fares that had not looked at the mark of the client when it was set. -/
structure Traceless (there : Plugins → Prop) (x : Nat) (later : List Deed) (r' : Running L W) :
    Prop where
  /-- It is told that the client is closed, or that it was wrong before it looked; whoever waits
  for it is told so at once. -/
  told : ∀ report, r'.reports x = some report → ∃ e, report.call = .failed e ∧
    (.checked x ∈ later → e = Client.closedError) ∧ (.checked x ∉ later → e.Early) ∧
    ∀ contexts aborted, r'.client.wait contexts aborted report.call =
      (some (.error e), .settled none, contexts, r'.client)
  /-- No interceptor, look-up, send or feedback is on its account. -/
  idle : r'.tasks x = none ∧ ∀ work, .worked x work ∉ later
  /-- Its own steps change neither the client nor any context. -/
  frame : ∀ deed r'', Step there r' deed r'' → deed.caller? = some x →
    r''.client = r'.client ∧ r''.forest = r'.forest ∧
      (∀ t, (r''.threads t).active = (r'.threads t).active) ∧ r''.tasks = r'.tasks

theorem Refused.traceless {x : Nat} {later : List Deed} (h : Refused x r')
    (sound : Sound r' (deeds ++ later)) (unchecked : .checked x ∉ deeds) :
    Traceless there x later r' where
  told report reported := by
    have hchecked : .checked x ∈ deeds ++ later ↔ .checked x ∈ later := by
      rw [List.mem_append]
      exact or_iff_right unchecked
    obtain ⟨-, -, ⟨e, hcall, -, hwhy⟩ | ⟨_, _, _, -, htask, -⟩⟩ := sound.report x report reported
    · rw [hchecked] at hwhy
      refine ⟨e, hcall, fun hlooked => ?_, fun hlooked => ?_, fun contexts aborted => ?_⟩
      · rcases hwhy with ⟨hclosed, -⟩ | ⟨-, hnot⟩
        · exact hclosed
        · exact absurd hlooked hnot
      · rcases hwhy with ⟨-, hdid⟩ | ⟨hearly, -⟩
        · exact absurd hdid hlooked
        · exact hearly
      · rw [hcall]
        rfl
    · rw [h.task] at htask
      cases htask
  idle := by
    refine ⟨h.task, fun work hworked => ?_⟩
    have hsome := sound.worked x work (List.mem_append_right _ hworked)
    rw [h.task] at hsome
    cases hsome
  frame _ _ step own := h.frame step own

/-- **Closing is final.** A client is called and closed by any number of threads, through any of
its clones, and everybody takes steps in any order. The shared locator is the one that the client
began with, used by calls and destroyed as often as closes have done so: once by the time the first
close is done, never again, and never before the client is closed. An invocation
that looks at the client's mark after the first close is refused without a trace, unless it was
wrong to begin with, whether its service has a link of its own or not. Every invocation leaves
active on its thread what was active before, and the context of a call that was started is a
child of that. Nobody waits for anybody: whoever closes or calls the client gets to the end. -/
theorem closing_is_final {r₀ : Running L W} (fresh : r₀.Fresh) (past : Runs there r₀ deeds r) :
    Option.Rel (Handled (deeds.countP Deed.isDestroyed)) r₀.client.network.shared
      r.client.network.shared ∧
    deeds.countP Deed.isDestroyed ≤ 1 ∧
    (∀ k first, deeds.find? Deed.isSwapped = some (.swapped k) → r.closers k = .closed first →
      deeds.countP Deed.isDestroyed = if r₀.client.network.shared.isSome then 1 else 0) ∧
    (∀ k, .destroyed k ∈ deeds → deeds.find? Deed.isSwapped = some (.swapped k)) ∧
    (r.client.closed = true ↔ ∃ k, .swapped k ∈ deeds) ∧
    (∀ k, r.closers k ≠ .idle → r.closers k ≠ .abandoned →
      ∃ later r' first, Runs there r later r' ∧ r'.closers k = .closed first) ∧
    (∀ x report, r.reports x = some report → report.after = report.before ∧
      ∀ invocation link, report.call = .started invocation link →
        r.tasks x = some (invocation, link) ∧
          ∃ id, invocation.Owns id r.forest report.before) ∧
    (∀ t caller, (r.threads t).caller = some caller → (∃ used, there used) →
      ∃ later r', Runs there r later r' ∧ (∀ d ∈ later, d.caller? = some caller.call) ∧
        ∃ report, r'.reports caller.call = some report) ∧
    (r.client.closed = true → ∀ x, .checked x ∉ deeds → ∀ later r', Runs there r later r' →
      Traceless there x later r' ∧ ∀ work, .worked x work ∉ deeds) := by
  have htally : Tally r₀.client.network.shared r deeds := fresh.tally.runs past
  have hsound : Sound r deeds := fresh.sound.runs past
  have hmarked : r.client.closed = true ↔ ∃ k, .swapped k ∈ deeds := by
    constructor
    · intro hclosed
      obtain ⟨k, hk⟩ := htally.first hclosed
      exact ⟨k, List.mem_of_find?_eq_some (htally.earliest k hk)⟩
    · rintro ⟨k, hk⟩
      exact htally.marked k hk
  refine ⟨htally.locator, ?_, fun k first hearliest hdone => ?_, fun k hk => htally.earliest k
    (htally.destroyed k hk), hmarked, fun k => exists_closed, fun x report hreport => ?_,
    fun t caller hbusy ⟨used, hused⟩ => ?_, fun hclosed x hunchecked later r' future => ?_⟩
  · cases hclosed : r.client.closed with
    | false =>
      rw [(htally.opened hclosed).2]
      exact Nat.zero_le 1
    | true =>
      obtain ⟨k, hk⟩ := htally.first hclosed
      rw [htally.count k hk]
      exact Closer.destroys_le ..
  · obtain ⟨k', hk'⟩ := htally.first (hmarked.mpr ⟨k, List.mem_of_find?_eq_some hearliest⟩)
    have hsame := htally.earliest k' hk'
    rw [hearliest] at hsame
    cases hsame
    have hcount := htally.count k hk'
    rw [hdone] at hk' hcount
    obtain rfl : first = true := hk'
    exact hcount
  · obtain ⟨-, hactive, hconcluded⟩ := hsound.report x report hreport
    refine ⟨hactive, fun invocation link hstarted => ?_⟩
    rcases hconcluded with ⟨e, hfailed, -⟩ | ⟨_, _, id, hcall, htask, -, howns⟩
    · rw [hstarted] at hfailed
      cases hfailed
    · rw [hstarted] at hcall
      cases hcall
      exact ⟨htask, id, howns⟩
  · obtain ⟨-, -, ⟨i, hfound⟩, hholds⟩ := hsound.busy t caller hbusy
    exact exists_report hused hbusy hfound hholds.sensible
  · have hrefused : Refused x r := .of_unchecked hsound hclosed hunchecked
    have hlater : Sound r' (deeds ++ later) := fresh.sound.runs (past.trans future)
    refine ⟨(hrefused.runs future).traceless hlater hunchecked, fun work hworked => ?_⟩
    exact hunchecked (hsound.task x (hsound.worked x work hworked))

/-- A service with one method, located through the shared locator. -/
def resetter : Import where
  service := Service.resettable
  link := none
  typed := true

/-- A client with a locator that counts, and threads that do nothing yet. -/
def shop : Running (Counted DirectLocator) Script where
  client := Script.client {
    shared := some { locator := { instances := Script.greeters } }
    links := []
    world := [] }
  imports := fun _ => some resetter
  forest := []
  threads := fun _ => { active := none, caller := none }
  closers := fun _ => .idle
  begun := 0
  tasks := fun _ => none
  reports := fun _ => none

/-- A caller has found its method when somebody marks the client closed. -/
def interrupted : Running (Counted DirectLocator) Script :=
  let found := (shop.asking 0 0 (.typed "reset" none)).turned 0
    ⟨0, 0, none, .asked (.typed "reset" none)⟩ resetter {} (.ready Service.resetConfig none)
  { found with
    client := found.client.markClosed.2
    closers := Function.update found.closers 0 (.swapped true) }

/-- The caller that comes too late is refused, and the locator is destroyed once. -/
theorem caller_is_interrupted :
    shop.Fresh ∧ Runs (· = .builtIn) shop [.began 0, .took 0, .swapped 0] interrupted ∧
      interrupted.client.closed = true ∧
      ∃ r', Runs (· = .builtIn) interrupted
          [.checked 0, .returned 0, .destroyed 0, .closed 0] r' ∧
        r'.reports 0 = some ⟨none, none, .failed Client.closedError⟩ ∧
        Traceless (· = .builtIn) 0 [.checked 0, .returned 0, .destroyed 0, .closed 0] r' ∧
        ∃ c, r'.client.network.shared = some c ∧ c.destroys = 1 := by
  have fresh : shop.Fresh := ⟨rfl, fun _ => rfl, fun _ => rfl, fun _ => rfl, fun _ => rfl⟩
  have past : Runs (· = .builtIn) shop [.began 0, .took 0, .swapped 0] interrupted :=
    ((Runs.refl.tail (.begin (t := 0) (s := 0) rfl rfl (.typed "reset" none))).tail
      (.turn (t := 0) rfl rfl (.typed rfl))).tail (.swap rfl)
  let ready : Caller := ⟨0, 0, none, .ready Service.resetConfig none⟩
  let answered : Caller := ⟨0, 0, none, .answered (.failed Client.closedError)⟩
  have checked : Step (· = .builtIn) interrupted (ready.stage.deed ready.call)
      (interrupted.turned 0 ready resetter {} answered.stage) := .turn rfl rfl (.refused rfl)
  have returned : Step (· = .builtIn) (interrupted.turned 0 ready resetter {} answered.stage)
      (.returned answered.call) _ := .leave (t := 0) rfl rfl
  let refused := (interrupted.turned 0 ready resetter {} answered.stage).left 0 answered
    (.failed Client.closedError)
  have told : Runs (· = .builtIn) interrupted [.checked 0, .returned 0] refused :=
    (Runs.refl.tail checked).tail returned
  have first : refused.closers 0 = .swapped true := rfl
  have destroyed : Runs (· = .builtIn) interrupted [.checked 0, .returned 0, .destroyed 0] _ :=
    told.then_close first (.destroy rfl)
  have future : Runs (· = .builtIn) interrupted
      [.checked 0, .returned 0, .destroyed 0, .closed 0] _ :=
    destroyed.then_close (Function.update_self ..) .finish
  obtain ⟨-, -, -, -, -, -, -, -, hlate⟩ := closing_is_final fresh past
  obtain ⟨traceless, -⟩ := hlate rfl 0 (by decide) _ _ future
  obtain ⟨hhandled, -, hcount, -⟩ := closing_is_final fresh (past.trans future)
  rw [hcount 0 true rfl rfl] at hhandled
  refine ⟨fresh, past, rfl, _, future, rfl, traceless, _, rfl, ?_⟩
  cases hhandled with
  | some handled => exact handled.destroys_eq

end Running

end RemoteCall
