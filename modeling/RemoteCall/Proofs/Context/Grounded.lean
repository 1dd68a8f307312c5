/-
Contexts as threads and futures can come to have them.

A list of contexts may be anything: a context can name a parent that is not there, or be among its
own ancestors. But a context cannot be used before it is made. So whatever is active anywhere, kept
by a guard or waiting below a poll was made before, and so was the parent of every new context.

* `Forest.Rooted` — parents are older than their children.
* `Context.World.Reachable` — what threads and futures come to, from nothing, when they act on
  contexts and write to them in any order.
* `Context.World.Reachable.rooted` — these are rooted.
-/
import RemoteCall.Proofs.Context.Writes

namespace RemoteCall

/-! ## Forests in which parents come first -/

namespace Forest

variable {f : Forest} {id : ContextId}

/-- Parents are older than their children. -/
def Rooted (f : Forest) : Prop :=
  ∀ id parent, f.parent? id = some parent → parent < id

/-- What is active, if anything, was made. -/
def Has (f : Forest) (active : Option ContextId) : Prop :=
  ∀ id, active = some id → id < f.length

theorem has_none (f : Forest) : f.Has none := nofun

theorem has_some : f.Has (some id) ↔ id < f.length := by
  simp [Has]

theorem Has.mono {grown : Forest} {active : Option ContextId} (h : f.Has active)
    (le : f.length ≤ grown.length) : grown.Has active :=
  fun id hid => Nat.lt_of_lt_of_le (h id hid) le

/-- A context without a node has no parent. -/
theorem lt_length_of_parent? {parent : ContextId} (h : f.parent? id = some parent) :
    id < f.length := by
  induction f with
  | nil => simp [parent?, node?] at h
  | cons n older ih =>
    by_cases heq : id = older.length
    · exact heq ▸ Nat.lt_succ_self _
    · have holder : parent? older id = some parent := by simpa [parent?, node?, heq] using h
      exact Nat.lt_succ_of_lt (ih holder)

namespace Rooted

theorem nil : Rooted [] := nofun

theorem add (h : f.Rooted) {parent : Option ContextId} (made : f.Has parent) :
    (f.add parent).Rooted := by
  intro id p hp
  by_cases hid : id = f.length
  · subst hid
    rw [parent?_add] at hp
    exact made p hp
  · rw [parent?_add_of_ne _ _ hid] at hp
    exact h id p hp

/-- A parent was made before its child. -/
theorem has_parent? (h : f.Rooted) (id : ContextId) : f.Has (f.parent? id) :=
  fun p hp => Nat.lt_trans (h id p hp) (lt_length_of_parent? hp)

end Rooted

end Forest

namespace Context

/-- Writes change no parents. -/
theorem rooted_on {f : Forest} (h : f.Rooted) (write : Write) (id : ContextId) (key : String) :
    (write.on f id key).2.Rooted := by
  intro other p hp
  rw [Write.parent?_on] at hp
  exact h other p hp

/-! ## What threads and futures come to -/

/-- The contexts of a thread are in order: parents are older than their children, and whatever is
active or kept by a guard was made. -/
structure View.Grounded (v : View) : Prop where
  rooted : v.contexts.forest.Rooted
  active : v.contexts.forest.Has v.contexts.active
  guards : ∀ guard before, v.guards guard = some before → v.contexts.forest.Has before

/-- A guard that takes or gives back a context that was made keeps the guards in order. -/
theorem has_of_update {f : Forest} {guards : Nat → Option (Option ContextId)}
    (h : ∀ guard before, guards guard = some before → f.Has before) (guard : Nat)
    {kept : Option (Option ContextId)} (made : ∀ before, kept = some before → f.Has before) :
    ∀ other before, Function.update guards guard kept other = some before → f.Has before :=
  (Function.forall_update_iff guards fun _ kept => ∀ before, kept = some before → f.Has before).mpr
    ⟨made, fun other _ => h other⟩

/-- The contexts that an act names. -/
def Act.named : Act → List ContextId
  | close id | enter id _ => [id]
  | create | detached | exit _ | current => []

theorem Sight.length_le_grow (s : Sight) (f : Forest) : f.length ≤ (s.grow f).length := by
  rw [grow]
  split
  · exact Nat.le_refl _
  · exact Nat.le_succ _

namespace View.Grounded

variable {v v' : View}

theorem act {act : Act} {sight : Sight} (h : v.Grounded)
    (made : ∀ id ∈ act.named, id < v.contexts.forest.length)
    (hact : v.act act = some (sight, v')) : v'.Grounded := by
  have hgrown : ∀ {active : Option ContextId} (parent : Option ContextId),
      v.contexts.forest.Has active → (v.contexts.forest.add parent).Has active :=
    fun parent hhas => hhas.mono (Nat.le_succ _)
  cases act with
  | create =>
    cases hact
    exact {
      rooted := h.rooted.add h.active
      active := Forest.has_some.mpr (Nat.lt_succ_self _)
      guards := fun guard before hg => hgrown _ (h.guards guard before hg) }
  | detached =>
    cases hact
    exact {
      rooted := h.rooted.add (Forest.has_none _)
      active := hgrown _ h.active
      guards := fun guard before hg => hgrown _ (h.guards guard before hg) }
  | current =>
    cases hact
    exact h
  | close id =>
    cases hact
    change View.Grounded { v with contexts := v.contexts.close id }
    by_cases hactive : v.contexts.active = some id
    · rw [Contexts.close, if_pos hactive]
      exact ⟨h.rooted, h.rooted.has_parent? id, h.guards⟩
    · rw [Contexts.close_of_ne hactive]
      exact h
  | enter id guard =>
    cases hg : v.guards guard with
    | some _ => simp [View.act, hg] at hact
    | none =>
      simp only [View.act, hg, Option.some.injEq] at hact
      cases hact
      refine ⟨h.rooted, Forest.has_some.mpr (made id (List.mem_singleton_self id)), ?_⟩
      exact has_of_update h.guards guard fun before hbefore => Option.some.inj hbefore ▸ h.active
  | exit guard =>
    cases hg : v.guards guard with
    | none => simp [View.act, hg] at hact
    | some behind =>
      simp only [View.act, hg, Option.some.injEq] at hact
      cases hact
      exact ⟨h.rooted, h.guards guard behind hg, has_of_update h.guards guard (by simp)⟩

end View.Grounded

/-- Something that is done with contexts, on some thread. -/
inductive Deed where
  | step (event : Event)
  | write (id : ContextId) (key : String) (write : Write)

namespace World

/-- The contexts that are named by a step: those of an act, and the one with which a future is
polled. -/
def named (w : World) : Event → List ContextId
  | .act _ act => act.named
  | .poll _ i =>
    match w.slots i with
    | .parked (some kept) => [kept]
    | _ => []
  | .finish _ _ => []

/-- Does something with contexts, if those that it names have been made. -/
def perform (w : World) : Deed → Option World
  | .step event =>
    if ∀ id ∈ w.named event, id < w.forest.length then (w.step event).map (·.2) else none
  | .write id key write =>
    if id < w.forest.length then some { w with forest := (write.on w.forest id key).2 } else none

/-- Does one thing after the other. -/
def performAll (w : World) : List Deed → Option World
  | [] => some w
  | deed :: deeds => (w.perform deed).bind (performAll · deeds)

theorem performAll_append (w : World) (deeds more : List Deed) :
    w.performAll (deeds ++ more) = (w.performAll deeds).bind (performAll · more) := by
  induction deeds generalizing w with
  | nil => rfl
  | cons deed deeds ih => simp only [List.cons_append, performAll, ih, Option.bind_assoc]

/-- At first there are no contexts. A future carries one that is yet to be made. -/
def Reachable (w : World) : Prop :=
  ∃ carried deeds, (start [] (fun _ => none) carried).performAll deeds = some w

/-- The contexts of all threads are in order. -/
structure Grounded (w : World) : Prop where
  rooted : w.forest.Rooted
  active : ∀ t, w.forest.Has (w.threads t).active
  frames : ∀ t, ∀ frame ∈ (w.threads t).frames, w.forest.Has frame.before
  guards : ∀ owner guard before, w.guards owner guard = some before → w.forest.Has before

namespace Grounded

variable {w w' : World}

theorem start (carried : Nat → ContextId) : (World.start [] (fun _ => none) carried).Grounded where
  rooted := .nil
  active _ := Forest.has_none _
  frames _ _ h := nomatch h
  guards _ _ _ h := nomatch h

theorem view (h : w.Grounded) (t : Nat) : (w.view t).Grounded where
  rooted := h.rooted
  active := h.active t
  guards := h.guards (w.owner t)

/-- An act leaves the contexts of the thread in order, and those of the others, for which there may
be more contexts than before. -/
theorem withView (h : w.Grounded) {t : Nat} {v : View} (hv : v.Grounded)
    (grown : w.forest.length ≤ v.contexts.forest.length) : (w.withView t v).Grounded where
  rooted := hv.rooted
  active t' := by
    by_cases ht : t' = t
    · subst ht
      rw [active_withView]
      exact hv.active
    · rw [threads_withView_of_ne ht]
      exact (h.active t').mono grown
  frames t' frame hframe := by
    rw [frames_withView] at hframe
    exact (h.frames t' frame hframe).mono grown
  guards owner guard before hguard := by
    rw [guards_withView] at hguard
    by_cases howner : owner = w.owner t
    · subst howner
      rw [Function.update_self] at hguard
      exact hv.guards guard before hguard
    · rw [Function.update_of_ne howner] at hguard
      exact (h.guards owner guard before hguard).mono grown

theorem poll (h : w.Grounded) {t i : Nat} {kept : Option ContextId} (made : w.forest.Has kept) :
    (w.begin t i kept).2.Grounded where
  rooted := h.rooted
  active t' := by
    rw [threads_begin]
    split
    · exact made
    · exact h.active t'
  frames t' frame hframe := by
    rw [threads_begin] at hframe
    split at hframe
    · rcases List.mem_cons.mp hframe with rfl | hbelow
      · exact h.active t
      · exact h.frames t frame hbelow
    · exact h.frames t' frame hframe
  guards := h.guards

theorem finish (h : w.Grounded) {t : Nat} {f : Frame} {frames : List Frame}
    (polling : (w.threads t).frames = f :: frames) (how : Polled) :
    (w.finish t f frames how).2.Grounded where
  rooted := h.rooted
  active t' := by
    rw [threads_finish]
    split
    · exact h.frames t f (polling ▸ List.mem_cons_self)
    · exact h.active t'
  frames t' frame hframe := by
    rw [threads_finish] at hframe
    split at hframe
    · exact h.frames t frame (polling ▸ List.mem_cons_of_mem f hframe)
    · exact h.frames t' frame hframe
  guards := h.guards

theorem write (h : w.Grounded) (write : Write) (id : ContextId) (key : String) :
    Grounded { w with forest := (write.on w.forest id key).2 } where
  rooted := rooted_on h.rooted write id key
  active t := (h.active t).mono (Nat.le_of_eq Write.length_on.symm)
  frames t frame hframe := (h.frames t frame hframe).mono (Nat.le_of_eq Write.length_on.symm)
  guards owner guard before hguard :=
    (h.guards owner guard before hguard).mono (Nat.le_of_eq Write.length_on.symm)

theorem moves (h : w.Grounded) {event : Event} {entry : Entry}
    (made : ∀ id ∈ w.named event, id < w.forest.length) (hmoves : w.Moves event entry w') :
    w'.Grounded := by
  cases hmoves with
  | @act t act sight v acts =>
    refine h.withView ((h.view t).act made acts) ?_
    rw [View.forest_of_act acts]
    exact sight.length_le_grow w.forest
  | @poll t i kept parked =>
    refine h.poll fun id hkept => made id ?_
    simp [named, parked, hkept]
  | finish polling => exact h.finish polling _

theorem perform (h : w.Grounded) {deed : Deed} (hdeed : w.perform deed = some w') :
    w'.Grounded := by
  cases deed with
  | step event =>
    obtain ⟨made, hstep⟩ := Option.ite_none_right_eq_some.mp hdeed
    obtain ⟨⟨entry, after⟩, hevent, rfl⟩ := Option.map_eq_some_iff.mp hstep
    exact h.moves made (moves_of_step hevent)
  | write id key write =>
    obtain ⟨-, hwrite⟩ := Option.ite_none_right_eq_some.mp hdeed
    cases hwrite
    exact h.write write id key

theorem performAll (h : w.Grounded) {deeds : List Deed} (hdeeds : w.performAll deeds = some w') :
    w'.Grounded := by
  induction deeds generalizing w with
  | nil =>
    cases hdeeds
    exact h
  | cons deed deeds ih =>
    obtain ⟨middle, hdeed, hrest⟩ := Option.bind_eq_some_iff.mp hdeeds
    exact ih (h.perform hdeed) hrest

end Grounded

theorem Reachable.grounded {w : World} (h : w.Reachable) : w.Grounded := by
  obtain ⟨carried, deeds, hdeeds⟩ := h
  exact (Grounded.start carried).performAll hdeeds

/-- A write leads from one such state to another. -/
theorem Reachable.write {w : World} (h : w.Reachable) {id : ContextId} (made : id < w.forest.length)
    (key : String) (write : Write) :
    Reachable { w with forest := (write.on w.forest id key).2 } := by
  obtain ⟨carried, deeds, hdeeds⟩ := h
  refine ⟨carried, deeds ++ [.write id key write], ?_⟩
  rw [performAll_append, hdeeds, Option.bind_some, performAll, perform, if_pos made]
  rfl

/-- **Parents are older than their children**, whatever threads and futures have done. -/
theorem Reachable.rooted {w : World} (h : w.Reachable) : w.forest.Rooted := h.grounded.rooted

end World

end Context

end RemoteCall
