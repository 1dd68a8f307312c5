/-
Contexts do not leak: not from a poll to the thread that it ran on, and not between
futures and threads.

Two things are shown of every run of threads that take turns. From what is noted of the
polls one can tell that each left its thread as it was (`Journal`). And next to the run,
each thread and each future can be followed on a thread of its own (`Follows`): a poll
moves contexts between the futures and the thread, but moves nothing there, and what one
of them does changes nothing for the others except that a context may have come into being.

* `contexts_never_leak` — both, from any start on.
-/
import RemoteCall.Proofs.Context.Threads

namespace RemoteCall.Context

variable {w w' : World} {event : Event} {entry : Entry} {log : List Entry} {views : Owner → View}

/-! ## What one of them notes -/

/-- What a step looks like to one thread or future: nothing, unless it acts itself or a context is
made. -/
def Entry.happening? (o : Owner) : Entry → Option Happening
  | acted owner act sight => if owner = o then some (.own act) else sight.parent.map .elsewhere
  | _ => none

/-- What one thread or future sees in a step. -/
def Entry.sight? (o : Owner) : Entry → Option Sight
  | acted owner _ sight => if owner = o then some sight else none
  | _ => none

/-! ## Polls and their ends -/

/-- The beginnings and ends of polls, as far as noted. -/
structure Journal (log : List Entry) (w : World) : Prop where
  counted : ∀ n t before, .began n t before ∈ log → n < w.polls
  once : ∀ n t before t' before', .began n t before ∈ log → .began n t' before' ∈ log →
    t' = t ∧ before' = before
  going : ∀ t, ∀ f ∈ (w.threads t).frames, .began f.number t f.before ∈ log
  settled : ∀ n t behind, .ended n t behind ∈ log → .began n t behind ∈ log

namespace Journal

theorem start (forest : Forest) (active : Nat → Option ContextId) (carried : Nat → ContextId) :
    Journal [] (World.start forest active carried) where
  counted := by simp
  once := by simp
  going := by simp [World.start]
  settled := by simp

theorem act {t : Nat} {v : View} {owner : Owner} {act : Act} {sight : Sight} (h : Journal log w) :
    Journal (log ++ [.acted owner act sight]) (w.withView t v) where
  counted n t before hb := h.counted n t before (by simpa using hb)
  once n t before t' before' hb hb' :=
    h.once n t before t' before' (by simpa using hb) (by simpa using hb')
  going t' f hf := List.mem_append_left _ (h.going t' f (by simpa using hf))
  settled n t behind he := List.mem_append_left _ (h.settled n t behind (by simpa using he))

/-- The number of a poll that begins is new. -/
theorem poll {t i : Nat} {kept : Option ContextId} (h : Journal log w) :
    Journal (log ++ [.began w.polls t (w.threads t).active]) (w.begin t i kept).2 := by
  have hnew : ∀ t' before, .began w.polls t' before ∉ log :=
    fun t' before hb => Nat.lt_irrefl _ (h.counted _ t' before hb)
  constructor
  case counted =>
    intro n t' before hb
    rcases List.mem_append.mp hb with hb | hb
    · exact Nat.lt_succ_of_lt (h.counted n t' before hb)
    · cases List.mem_singleton.mp hb
      exact Nat.lt_succ_self _
  case once =>
    intro n t' before t'' before' hb hb'
    rcases List.mem_append.mp hb with hb | hb <;> rcases List.mem_append.mp hb' with hb' | hb'
    · exact h.once n t' before t'' before' hb hb'
    · cases List.mem_singleton.mp hb'
      exact absurd hb (hnew t' before)
    · cases List.mem_singleton.mp hb
      exact absurd hb' (hnew t'' before')
    · cases List.mem_singleton.mp hb
      cases List.mem_singleton.mp hb'
      exact ⟨rfl, rfl⟩
  case going =>
    intro t' f hf
    rw [World.threads_begin] at hf
    split at hf
    · next heq =>
      rcases List.mem_cons.mp hf with rfl | hf
      · rw [heq]
        exact List.mem_append_right _ (List.mem_singleton_self _)
      · exact List.mem_append_left _ (h.going t' f (heq ▸ hf))
    · exact List.mem_append_left _ (h.going t' f hf)
  case settled =>
    intro n t' behind he
    exact List.mem_append_left _ (h.settled n t' behind (by simpa using he))

/-- The poll that ends has begun: its frame still says with what. -/
theorem finish {t : Nat} {how : Polled} {f : Frame} {frames : List Frame} (h : Journal log w)
    (hpolling : (w.threads t).frames = f :: frames) :
    Journal (log ++ [.ended f.number t f.before]) (w.finish t f frames how).2 := by
  have hbegan : .began f.number t f.before ∈ log :=
    h.going t f (hpolling ▸ List.mem_cons_self)
  constructor
  case counted => exact fun n t' before hb => h.counted n t' before (by simpa using hb)
  case once =>
    exact fun n t' before t'' before' hb hb' =>
      h.once n t' before t'' before' (by simpa using hb) (by simpa using hb')
  case going =>
    intro t' g hg
    refine List.mem_append_left _ (h.going t' g ?_)
    rw [World.threads_finish] at hg
    split at hg
    · next heq => exact heq ▸ hpolling ▸ List.mem_cons_of_mem f hg
    · exact hg
  case settled =>
    intro n t' behind he
    refine List.mem_append_left _ ?_
    rcases List.mem_append.mp he with he | he
    · exact h.settled n t' behind he
    · cases List.mem_singleton.mp he
      exact hbegan

theorem moves (h : Journal log w) (hmoves : w.Moves event entry w') :
    Journal (log ++ [entry]) w' := by
  cases hmoves with
  | act _ => exact h.act
  | poll _ => exact h.poll
  | finish polling => exact h.finish polling

theorem run {events : List Event} {later : List Entry} (h : Journal log w)
    (hrun : w.run events = some (later, w')) : Journal (log ++ later) w' := by
  induction events generalizing w log later with
  | nil =>
    cases hrun
    simpa using h
  | cons event events ih =>
    obtain ⟨entry, middle, rest, hmoves, hrest, rfl⟩ := World.of_run_cons hrun
    simpa using ih (h.moves hmoves) hrest

end Journal

/-! ## Each on a thread of its own -/

/-- Who has a context on a thread: the futures that are polled there, innermost first, and the
thread itself. -/
def owners (t : Nat) (frames : List Frame) : List Owner :=
  frames.map (.future ·.future) ++ [.thread t]

/-- The innermost of them has the active context, and each other one what was active before the
poll above it. -/
def Seated (views : Owner → View) (t : Nat) (active : Option ContextId) : List Frame → Prop
  | [] => (views (.thread t)).contexts.active = active
  | f :: frames =>
    (views (.future f.future)).contexts.active = active ∧ Seated views t f.before frames

/-- A future that is not being polled has the context that is kept with it. -/
def Slot.Keeps (v : View) : Slot → Prop
  | parked kept => v.contexts.active = kept
  | left kept => v.contexts.active = kept
  | polled _ => True

/-- All threads and futures have the same before them as each would have by itself. -/
structure Follows (views : Owner → View) (w : World) : Prop where
  forest : ∀ o, (views o).contexts.forest = w.forest
  guards : ∀ o, (views o).guards = w.guards o
  seated : ∀ t, Seated views t (w.threads t).active (w.threads t).frames
  kept : ∀ i, (w.slots i).Keeps (views (.future i))
  polled : ∀ t, ∀ f ∈ (w.threads t).frames, w.slots f.future = .polled t
  distinct : ∀ t, ((w.threads t).frames.map (·.future)).Nodup

/-- What everyone has after one of them has done something. -/
def spread (views : Owner → View) (actor : Owner) (v : View) (o : Owner) : View :=
  if o = actor then v else (views o).withForest v.contexts.forest

theorem spread_self {actor : Owner} {v : View} : spread views actor v actor = v := if_pos rfl

theorem spread_of_ne {actor o : Owner} {v : View} (h : o ≠ actor) :
    spread views actor v o = (views o).withForest v.contexts.forest := if_neg h

theorem forest_spread {actor : Owner} {v : View} (o : Owner) :
    (spread views actor v o).contexts.forest = v.contexts.forest := by
  unfold spread
  split <;> rfl

theorem active_spread {actor o : Owner} {v : View} (h : o ≠ actor) :
    (spread views actor v o).contexts.active = (views o).contexts.active := by
  rw [spread_of_ne h]
  rfl

theorem Seated.congr {views' : Owner → View} {t : Nat} {active : Option ContextId}
    {frames : List Frame} (h : Seated views t active frames)
    (same : ∀ o ∈ owners t frames, (views' o).contexts.active = (views o).contexts.active) :
    Seated views' t active frames := by
  induction frames generalizing active with
  | nil => exact (same _ (by simp [owners])).trans h
  | cons f frames ih =>
    refine ⟨(same _ (by simp [owners])).trans h.1, ih h.2 fun o ho => same o ?_⟩
    exact List.mem_cons_of_mem _ ho

/-- The innermost has what it made active itself; nothing changes below it. -/
theorem Seated.spread {t : Nat} {active : Option ContextId} {v : View}
    (h : Seated views t active (w.threads t).frames)
    (distinct : ((w.threads t).frames.map (·.future)).Nodup) :
    Seated (spread views (w.owner t) v) t v.contexts.active (w.threads t).frames := by
  unfold World.owner
  cases hframes : (w.threads t).frames with
  | nil => exact congrArg (·.contexts.active) spread_self
  | cons f frames =>
    rw [hframes] at h distinct
    refine ⟨congrArg (·.contexts.active) spread_self, h.2.congr fun o ho => active_spread ?_⟩
    rintro rfl
    have hmem : f.future ∈ frames.map (·.future) := by
      simpa [owners] using ho
    exact (List.nodup_cons.mp distinct).1 hmem

theorem Slot.Keeps.congr {slot : Slot} {v v' : View} (h : slot.Keeps v)
    (same : v'.contexts.active = v.contexts.active) : slot.Keeps v' := by
  cases slot with
  | parked kept => exact same.trans h
  | left kept => exact same.trans h
  | polled t => trivial

theorem Slot.keeps_after {v : View} {kept : Option ContextId} (how : Polled)
    (h : v.contexts.active = kept) : (Slot.after how kept).Keeps v := by
  cases how <;> exact h

theorem mem_owners {t : Nat} {frames : List Frame} {o : Owner} :
    o ∈ owners t frames ↔ (∃ f ∈ frames, .future f.future = o) ∨ o = .thread t := by
  simp [owners]

namespace Follows

theorem start (forest : Forest) (active : Nat → Option ContextId) (carried : Nat → ContextId) :
    Follows (fun o => View.alone forest (o.first active carried))
      (World.start forest active carried) where
  forest o := rfl
  guards o := rfl
  seated t := rfl
  kept i := rfl
  polled := by simp [World.start]
  distinct := by simp [World.start]

/-- The one who acts on a thread has there what it would have by itself. -/
theorem view (h : Follows views w) (t : Nat) : views (w.owner t) = w.view t := by
  have hactive : (views (w.owner t)).contexts.active = (w.threads t).active := by
    have hseated := h.seated t
    unfold World.owner
    cases hframes : (w.threads t).frames with
    | nil =>
      rw [hframes] at hseated
      exact hseated
    | cons f frames =>
      rw [hframes] at hseated
      exact hseated.1
  have hcontexts : (views (w.owner t)).contexts = w.contexts t :=
    congrArg₂ Contexts.mk (h.forest _) hactive
  exact congrArg₂ View.mk hcontexts (h.guards _)

/-- A future that acts on a thread is polled there. -/
theorem polled_of_owner (h : Follows views w) {t i : Nat} (ho : w.owner t = .future i) :
    w.slots i = .polled t := by
  unfold World.owner at ho
  cases hframes : (w.threads t).frames with
  | nil =>
    rw [hframes] at ho
    cases ho
  | cons f frames =>
    rw [hframes] at ho
    cases ho
    exact h.polled t f (hframes ▸ List.mem_cons_self)

/-- Who acts on one thread has no context on another one. -/
theorem owner_not_mem (h : Follows views w) {t t' : Nat} (hne : t' ≠ t) :
    w.owner t ∉ owners t' (w.threads t').frames := by
  intro ho
  rcases mem_owners.mp ho with ⟨f, hf, hfuture⟩ | hthread
  · have hpolled := h.polled_of_owner hfuture.symm
    rw [h.polled t' f hf] at hpolled
    exact hne (Slot.polled.inj hpolled)
  · unfold World.owner at hthread
    split at hthread
    · exact hne (Owner.thread.inj hthread).symm
    · cases hthread

/-- What one does changes nothing for the others except that a context may have come into being. -/
theorem act {t : Nat} {act : Act} {sight : Sight} {v : View} (h : Follows views w)
    (hact : (w.view t).act act = some (sight, v)) :
    Follows (spread views (w.owner t) v) (w.withView t v) := by
  constructor
  case forest =>
    exact forest_spread
  case guards =>
    intro o
    rw [World.guards_withView]
    by_cases ho : o = w.owner t
    · rw [ho, spread_self, Function.update_self]
    · rw [spread_of_ne ho, Function.update_of_ne ho]
      exact h.guards o
  case seated =>
    -- the actor is innermost on its own thread, and nowhere else
    intro t'
    rw [World.frames_withView]
    by_cases heq : t' = t
    · subst heq
      rw [World.active_withView]
      exact (h.seated t').spread (h.distinct t')
    · rw [World.threads_withView_of_ne heq]
      exact (h.seated t').congr fun o ho =>
        active_spread fun heq' => h.owner_not_mem heq (heq' ▸ ho)
  case kept =>
    intro i
    by_cases ho : .future i = w.owner t
    · rw [World.slots_withView, h.polled_of_owner ho.symm]
      trivial
    · exact (h.kept i).congr (active_spread ho)
  case polled =>
    intro t' f hf
    exact h.polled t' f (by simpa using hf)
  case distinct =>
    intro t'
    simpa using h.distinct t'

/-- A poll moves a context from the future to the thread, and moves nothing for anyone. -/
theorem poll {t i : Nat} {kept : Option ContextId} (h : Follows views w)
    (hparked : w.slots i = .parked kept) : Follows views (w.begin t i kept).2 := by
  have hkept : (views (.future i)).contexts.active = kept := by
    have hkeeps := h.kept i
    rw [hparked] at hkeeps
    exact hkeeps
  have hfree : ∀ t', ∀ f ∈ (w.threads t').frames, f.future ≠ i := by
    intro t' f hf heq
    have hpolled := h.polled t' f hf
    rw [heq, hparked] at hpolled
    cases hpolled
  constructor
  case forest =>
    exact h.forest
  case guards =>
    exact h.guards
  case seated =>
    intro t'
    rw [World.threads_begin]
    split
    · next heq =>
      subst heq
      exact ⟨hkept, h.seated t'⟩
    · exact h.seated t'
  case kept =>
    intro i'
    rw [World.slots_begin]
    split
    · trivial
    · exact h.kept i'
  case polled =>
    intro t' f hf
    rw [World.slots_begin]
    rw [World.threads_begin] at hf
    split at hf
    · next heq =>
      rcases List.mem_cons.mp hf with rfl | hf
      · rw [if_pos rfl, heq]
      · rw [if_neg (hfree t f hf), heq]
        exact h.polled t f hf
    · rw [if_neg (hfree t' f hf)]
      exact h.polled t' f hf
  case distinct =>
    intro t'
    rw [World.threads_begin]
    split
    · refine List.nodup_cons.mpr ⟨fun hmem => ?_, h.distinct t⟩
      obtain ⟨f, hf, heq⟩ := List.mem_map.mp hmem
      exact hfree t f hf heq
    · exact h.distinct t'

/-- The end of a poll moves a context back to the future, and moves nothing for anyone. -/
theorem finish {t : Nat} {how : Polled} {f : Frame} {frames : List Frame} (h : Follows views w)
    (hpolling : (w.threads t).frames = f :: frames) :
    Follows views (w.finish t f frames how).2 := by
  have hseated := h.seated t
  have hdistinct := h.distinct t
  rw [hpolling] at hseated hdistinct
  have hpolled : w.slots f.future = .polled t :=
    h.polled t f (hpolling ▸ List.mem_cons_self)
  constructor
  case forest =>
    exact h.forest
  case guards =>
    exact h.guards
  case seated =>
    intro t'
    rw [World.threads_finish]
    split
    · next heq => exact heq ▸ hseated.2
    · exact h.seated t'
  case kept =>
    intro i
    rw [World.slots_finish]
    split
    · next heq => exact heq ▸ Slot.keeps_after how hseated.1
    · exact h.kept i
  case polled =>
    intro t' g hg
    rw [World.slots_finish]
    rw [World.threads_finish] at hg
    -- no other frame is of the future that is parked now
    split at hg
    · next heq =>
      have hne : g.future ≠ f.future := fun hfuture =>
        (List.nodup_cons.mp hdistinct).1 (List.mem_map.mpr ⟨g, hg, hfuture⟩)
      rw [if_neg hne, heq]
      exact h.polled t g (hpolling ▸ List.mem_cons_of_mem f hg)
    · next hne =>
      have hg' := h.polled t' g hg
      rw [if_neg fun hfuture => hne ?_]
      · exact hg'
      · rw [hfuture, hpolled] at hg'
        exact (Slot.polled.inj hg').symm
  case distinct =>
    intro t'
    rw [World.threads_finish]
    split
    · exact (List.nodup_cons.mp hdistinct).2
    · exact h.distinct t'

theorem moves (h : Follows views w) (hmoves : w.Moves event entry w') :
    ∃ views', Follows views' w' ∧ ∀ o,
      (views o).run ([entry].filterMap (·.happening? o)) =
        some ([entry].filterMap (·.sight? o), views' o) := by
  cases hmoves with
  | @act t act sight v acts =>
    refine ⟨_, h.act acts, fun o => ?_⟩
    by_cases ho : w.owner t = o
    · subst ho
      have hact : (views (w.owner t)).act act = some (sight, v) := by
        rw [h.view t, acts]
      simp [Entry.happening?, Entry.sight?, View.run, hact, spread_self]
    · have hforest : v.contexts.forest = sight.grow (views o).contexts.forest := by
        rw [View.forest_of_act acts, h.forest o]
        rfl
      rw [spread_of_ne (Ne.symm ho), hforest]
      cases hparent : sight.parent with
      | none =>
        simp [Entry.happening?, Entry.sight?, ho, hparent, View.run, Sight.grow, View.withForest]
      | some parent =>
        simp [Entry.happening?, Entry.sight?, ho, hparent, View.run, Sight.grow]
  | poll parked => exact ⟨views, h.poll parked, fun o => rfl⟩
  | finish polling => exact ⟨views, h.finish polling, fun o => rfl⟩

theorem run {events : List Event} (h : Follows views w) (hrun : w.run events = some (log, w')) :
    ∃ views', Follows views' w' ∧ ∀ o,
      (views o).run (log.filterMap (·.happening? o)) =
        some (log.filterMap (·.sight? o), views' o) := by
  induction events generalizing views w log with
  | nil =>
    cases hrun
    exact ⟨views, h, fun o => rfl⟩
  | cons event events ih =>
    obtain ⟨entry, middle, rest, hmoves, hrest, rfl⟩ := World.of_run_cons hrun
    obtain ⟨between, hmiddle, hentry⟩ := h.moves hmoves
    obtain ⟨views', hlast, hlog⟩ := ih hmiddle hrest
    refine ⟨views', hlast, fun o => ?_⟩
    rw [← List.singleton_append, List.filterMap_append, List.filterMap_append]
    exact View.run_append (hentry o) (hlog o)

end Follows

/-! ## No leaks -/

/-- **Contexts never leak between futures and threads.** Let any threads take any steps in any
order: act on contexts by themselves, poll a future, act inside the poll, poll another future
inside it, and end a poll, also with a panic. Then

* every poll that ended had begun once, on the same thread, and what was active there before it
  is active after it;
* what each future sees in its polls, and each thread outside of them, is what it would see if
  it did the same alone on a thread of its own: there a future starts with the context that it
  carries, polls are nothing, and of all that others do only new contexts come into being. -/
theorem contexts_never_leak {forest : Forest} {active : Nat → Option ContextId}
    {carried : Nat → ContextId} {events : List Event} {log : List Entry} {after : World}
    (h : (World.start forest active carried).run events = some (log, after)) :
    (∀ n t behind, .ended n t behind ∈ log → .began n t behind ∈ log ∧
      ∀ t' before, .began n t' before ∈ log → t' = t ∧ before = behind) ∧
    ∀ o : Owner, ∃ v, (View.alone forest (o.first active carried)).run
      (log.filterMap (·.happening? o)) = some (log.filterMap (·.sight? o), v) := by
  constructor
  · intro n t behind hended
    have hjournal : Journal log after := (Journal.start forest active carried).run h
    have hbegan := hjournal.settled n t behind hended
    exact ⟨hbegan, fun t' before => hjournal.once n t behind t' before hbegan⟩
  · intro o
    obtain ⟨views, -, hviews⟩ := (Follows.start forest active carried).run h
    exact ⟨views o, hviews o⟩

/-- Thread 0 polls future 0, and inside that poll future 1, which goes on later on thread 1. Both
futures leave contexts unclosed when their polls end, the first one with a panic. -/
def relay : List Event :=
  [.poll 0 0, .act 0 .create, .act 1 .create, .poll 0 1, .act 0 (.enter 3 7), .act 0 .create,
    .finish 0 .pending, .act 0 .current, .finish 0 (.panicked "broken"), .act 0 .current,
    .poll 1 1, .act 1 .current, .act 1 (.exit 7), .act 1 (.close 1), .finish 1 .ready,
    .act 1 .current]

/-- What is noted of it. -/
def relayed : List Entry :=
  [.began 0 0 none, .acted (.future 0) .create { active := some 2, parent := some (some 0) },
    .acted (.thread 1) .create { active := some 3, parent := some (some 0) },
    .began 1 0 (some 2), .acted (.future 1) (.enter 3 7) { active := some 3 },
    .acted (.future 1) .create { active := some 4, parent := some (some 3) },
    .ended 1 0 (some 2), .acted (.future 0) .current { active := some 2 },
    .ended 0 0 none, .acted (.thread 0) .current { active := none },
    .began 2 1 (some 3), .acted (.future 1) .current { active := some 4 },
    .acted (.future 1) (.exit 7) { active := some 1 },
    .acted (.future 1) (.close 1) { active := some 0 },
    .ended 2 1 (some 3), .acted (.thread 1) .current { active := some 3 }]

theorem relay_leaks_nothing :
    let start := World.start [⟨some 0, ∅⟩, ⟨none, ∅⟩] (fun t => if t = 1 then some 0 else none) id
    ∃ after, start.run relay = some (relayed, after) ∧
      (∀ n t behind, .ended n t behind ∈ relayed → .began n t behind ∈ relayed ∧
        ∀ t' before, .began n t' before ∈ relayed → t' = t ∧ before = behind) ∧
      (∃ v, (View.alone start.forest (some 1)).run
        [.elsewhere (some 0), .elsewhere (some 0), .own (.enter 3 7), .own .create, .own .current,
          .own (.exit 7), .own (.close 1)] =
        some ([{ active := some 3 }, { active := some 4, parent := some (some 3) },
          { active := some 4 }, { active := some 1 }, { active := some 0 }], v)) ∧
      ∃ v, (View.alone start.forest (some 0)).run
        [.elsewhere (some 0), .own .create, .elsewhere (some 3), .own .current] =
        some ([{ active := some 3, parent := some (some 0) }, { active := some 3 }], v) := by
  intro start
  obtain ⟨after, hrun⟩ : ∃ after, start.run relay = some (relayed, after) := ⟨_, rfl⟩
  obtain ⟨hpolls, hviews⟩ := contexts_never_leak hrun
  exact ⟨after, hrun, hpolls, hviews (.future 1), hviews (.thread 1)⟩

end RemoteCall.Context
