/-
Futures that carry contexts, polled on threads that have active contexts of their own.

A poll swaps in the context that its future kept, and however the poll ends, what is
active then is parked with the future and the thread gets back what it had. A future may
poll another one inside its own poll, so that a thread has a stack of polls. `World` is
all threads and futures over the contexts that they share, and `World.step` lets one
thread take a step: act on contexts, begin a poll, or end the innermost one.

A `View` is what one of them would have on a thread of its own: an active context, and
the guards that it took. Others show there only by the contexts that they make.

* `World.poll_runParked` — a poll and its end do to a thread what running parked work does,
  whatever comes in between.
* `Session.poll_active` — a poll of a session's task leaves the active context as it was.
-/
import Mathlib.Logic.Function.Basic
import RemoteCall.Context.Session

namespace RemoteCall

@[simp] theorem Forest.parent?_add (f : Forest) (parent : Option ContextId) :
    (f.add parent).parent? f.length = parent := by
  simp [Forest.add, Forest.parent?, Forest.node?]

namespace Context

/-! ## One thread -/

inductive Act where
  | create
  | detached
  | close (id : ContextId)
  | enter (id : ContextId) (guard : Nat)
  /-- Drops a guard. -/
  | exit (guard : Nat)
  | current
deriving DecidableEq, Repr

/-- What is to be seen after an act: the active context and, of a context that was just made,
the parent. -/
structure Sight where
  active : Option ContextId
  parent : Option (Option ContextId) := none
deriving DecidableEq, Repr

/-- The forest, grown by a context if one was just made. -/
def Sight.grow (s : Sight) (f : Forest) : Forest :=
  match s.parent with
  | none => f
  | some parent => f.add parent

/-- The contexts on a thread of one's own, and for each guard that one has what was active
before it. -/
structure View where
  contexts : Contexts
  guards : Nat → Option (Option ContextId)

/-- Something that happens while one is alone on a thread. -/
inductive Happening where
  | own (act : Act)
  /-- Another thread makes a context. -/
  | elsewhere (parent : Option ContextId)
deriving DecidableEq, Repr

namespace View

/-- A thread of one's own, with no guards taken. -/
def alone (forest : Forest) (active : Option ContextId) : View :=
  { contexts := { forest := forest, active := active }, guards := fun _ => none }

/-- A context was made. -/
def made (v : View) (result : ContextId × Contexts) : Sight × View :=
  ({ active := result.2.active, parent := some (result.2.forest.parent? result.1) },
    { v with contexts := result.2 })

/-- No context was made. -/
def moved (v : View) (contexts : Contexts) : Sight × View :=
  ({ active := contexts.active }, { v with contexts := contexts })

/-- Does something, if it can be done: only a free name can be given to a guard, and only a
guard that was taken can be dropped. -/
def act (v : View) : Act → Option (Sight × View)
  | .create => some (v.made v.contexts.create)
  | .detached => some (v.made v.contexts.createDetached)
  | .close id => some (v.moved (v.contexts.close id))
  | .enter id guard =>
    match v.guards guard with
    | some _ => none
    | none =>
      let (before, contexts) := v.contexts.swap (some id)
      some ({ v with guards := Function.update v.guards guard (some before) }.moved contexts)
  | .exit guard =>
    match v.guards guard with
    | none => none
    | some before =>
      some ({ v with guards := Function.update v.guards guard none }.moved
        (v.contexts.swap before).2)
  | .current => some (v.moved v.contexts)

/-- The forest is what others left of it; the active context stays. -/
def withForest (v : View) (forest : Forest) : View :=
  { v with contexts := { v.contexts with forest := forest } }

/-- Lets things happen one after the other; also what is to be seen after each own act. -/
def run (v : View) : List Happening → Option (List Sight × View)
  | [] => some ([], v)
  | .own act :: rest => do
    let (sight, v) ← v.act act
    let (sights, v) ← v.run rest
    some (sight :: sights, v)
  | .elsewhere parent :: rest => (v.withForest (v.contexts.forest.add parent)).run rest

theorem run_append {v v' v'' : View} {first more : List Happening} {sights later : List Sight}
    (h : v.run first = some (sights, v')) (hmore : v'.run more = some (later, v'')) :
    v.run (first ++ more) = some (sights ++ later, v'') := by
  induction first generalizing v sights with
  | nil =>
    cases h
    exact hmore
  | cons happening first ih =>
    cases happening with
    | own act =>
      obtain ⟨⟨sight, middle⟩, hact, h⟩ := Option.bind_eq_some_iff.mp h
      obtain ⟨⟨sights, v'⟩, hrest, h⟩ := Option.bind_eq_some_iff.mp h
      cases h
      simp [run, hact, ih hrest]
    | elsewhere parent => exact ih h

/-- What is to be seen after an act says how the forest has grown. -/
theorem forest_of_act {v v' : View} {act : Act} {sight : Sight}
    (h : v.act act = some (sight, v')) :
    v'.contexts.forest = sight.grow v.contexts.forest := by
  cases act with
  | create =>
    cases h
    simp [Contexts.create, Sight.grow]
  | detached =>
    cases h
    simp [Contexts.createDetached, Sight.grow]
  | close id =>
    cases h
    simp only [Contexts.close, Sight.grow]
    split <;> rfl
  | enter id guard =>
    cases hg : v.guards guard with
    | some _ => simp [View.act, hg] at h
    | none =>
      simp only [View.act, hg, Option.some.injEq] at h
      cases h
      rfl
  | exit guard =>
    cases hg : v.guards guard with
    | none => simp [View.act, hg] at h
    | some before =>
      simp only [View.act, hg, Option.some.injEq] at h
      cases h
      rfl
  | current =>
    cases h
    rfl

end View

/-! ## Many threads -/

/-- A poll that is going on. -/
structure Frame where
  future : Nat
  /-- How many polls began before, on all threads. -/
  number : Nat
  /-- What was active on the thread before the poll. -/
  before : Option ContextId

/-- A thread: its active context, and the polls that are going on there, innermost first. -/
structure Thread where
  active : Option ContextId
  frames : List Frame := []

/-- Where the context of a future is. -/
inductive Slot where
  /-- With the future, which can be polled. -/
  | parked (kept : Option ContextId)
  /-- On the thread that is polling the future. -/
  | polled (t : Nat)
  /-- With the future, which is ready or has panicked. -/
  | left (kept : Option ContextId)
deriving DecidableEq, Repr

def Slot.after : Polled → Option ContextId → Slot
  | .pending => parked
  | _ => left

/-- Who acts: a thread by itself, or the future that it is polling. -/
inductive Owner where
  | thread (t : Nat)
  | future (i : Nat)
deriving DecidableEq, Repr

structure World where
  forest : Forest
  threads : Nat → Thread
  slots : Nat → Slot
  guards : Owner → Nat → Option (Option ContextId)
  /-- How many polls have begun. -/
  polls : Nat

/-- The context that a thread or future starts with. -/
def Owner.first (active : Nat → Option ContextId) (carried : Nat → ContextId) :
    Owner → Option ContextId
  | thread t => active t
  | future i => some (carried i)

inductive Event where
  | act (t : Nat) (act : Act)
  | poll (t i : Nat)
  /-- The innermost poll of the thread ends. -/
  | finish (t : Nat) (how : Polled)
deriving DecidableEq, Repr

/-- What is noted of a step: who saw what, or what is active on the thread before a poll and
after it. -/
inductive Entry where
  | acted (owner : Owner) (act : Act) (sight : Sight)
  | began (number t : Nat) (active : Option ContextId)
  | ended (number t : Nat) (active : Option ContextId)
deriving DecidableEq, Repr

namespace World

def contexts (w : World) (t : Nat) : Contexts :=
  { forest := w.forest, active := (w.threads t).active }

/-- Who acts when a thread takes a step. -/
def owner (w : World) (t : Nat) : Owner :=
  match (w.threads t).frames with
  | [] => .thread t
  | f :: _ => .future f.future

/-- The contexts of a thread, with the guards of the one who acts there. -/
def view (w : World) (t : Nat) : View :=
  { contexts := w.contexts t, guards := w.guards (w.owner t) }

/-- Changes the contexts of a thread, and the polls that are going on there. -/
def withThread (w : World) (t : Nat) (contexts : Contexts) (frames : List Frame) : World :=
  { w with
    forest := contexts.forest
    threads := Function.update w.threads t { active := contexts.active, frames := frames } }

/-- Changes the contexts of a thread and the guards of the one who acts there. -/
def withView (w : World) (t : Nat) (v : View) : World :=
  { w with guards := Function.update w.guards (w.owner t) v.guards }.withThread t v.contexts
    (w.threads t).frames

def setSlot (w : World) (i : Nat) (slot : Slot) : World :=
  { w with slots := Function.update w.slots i slot }

/-- Begins a poll on a thread, with the context that the future kept. -/
def begin (w : World) (t i : Nat) (kept : Option ContextId) : Entry × World :=
  let (before, contexts) := (w.contexts t).swap kept
  (.began w.polls t before,
    { w with polls := w.polls + 1 }.setSlot i (.polled t) |>.withThread t contexts
      ({ future := i, number := w.polls, before := before } :: (w.threads t).frames))

/-- Ends the innermost poll on a thread, which had begun with these frames below it. -/
def finish (w : World) (t : Nat) (f : Frame) (frames : List Frame) (how : Polled) :
    Entry × World :=
  let (kept, contexts) := (w.contexts t).swap f.before
  (.ended f.number t contexts.active,
    (w.setSlot f.future (.after how kept)).withThread t contexts frames)

/-- Takes a step, if it can be taken: a future can be polled only while it is suspended. -/
def step (w : World) : Event → Option (Entry × World)
  | .act t act =>
    ((w.view t).act act).map fun (sight, v) => (.acted (w.owner t) act sight, w.withView t v)
  | .poll t i =>
    match w.slots i with
    | .parked kept => some (w.begin t i kept)
    | _ => none
  | .finish t how =>
    match (w.threads t).frames with
    | [] => none
    | f :: frames => some (w.finish t f frames how)

def run (w : World) : List Event → Option (List Entry × World)
  | [] => some ([], w)
  | event :: events => do
    let (entry, w) ← w.step event
    let (log, w) ← w.run events
    some (entry :: log, w)

/-- Nothing has been polled. Each thread has its own active context, and each future carries a
context; that may also be one that is yet to be made. -/
def start (forest : Forest) (active : Nat → Option ContextId) (carried : Nat → ContextId) :
    World where
  forest := forest
  threads t := { active := active t }
  slots i := .parked (some (carried i))
  guards _ _ := none
  polls := 0

/-- Which steps can be taken, and what they do. -/
inductive Moves (w : World) : Event → Entry → World → Prop where
  | act {t : Nat} {act : Act} {sight : Sight} {v : View}
    (acts : (w.view t).act act = some (sight, v)) :
    w.Moves (.act t act) (.acted (w.owner t) act sight) (w.withView t v)
  | poll {t i : Nat} {kept : Option ContextId} (parked : w.slots i = .parked kept) :
    w.Moves (.poll t i) (.began w.polls t (w.threads t).active) (w.begin t i kept).2
  | finish {t : Nat} {how : Polled} {f : Frame} {frames : List Frame}
    (polling : (w.threads t).frames = f :: frames) :
    w.Moves (.finish t how) (.ended f.number t f.before) (w.finish t f frames how).2

theorem moves_of_step {w w' : World} {event : Event} {entry : Entry}
    (h : w.step event = some (entry, w')) : w.Moves event entry w' := by
  cases event with
  | act t act =>
    obtain ⟨⟨sight, v⟩, hact, h⟩ := Option.map_eq_some_iff.mp h
    cases h
    exact .act hact
  | poll t i =>
    cases hi : w.slots i with
    | parked kept =>
      simp only [step, hi, Option.some.injEq] at h
      cases h
      exact .poll hi
    | _ => simp [step, hi] at h
  | finish t how =>
    cases ht : (w.threads t).frames with
    | nil => simp [step, ht] at h
    | cons f frames =>
      simp only [step, ht, Option.some.injEq] at h
      cases h
      exact .finish ht

theorem of_run_cons {w after : World} {event : Event} {events : List Event} {log : List Entry}
    (h : w.run (event :: events) = some (log, after)) :
    ∃ entry middle rest, w.Moves event entry middle ∧ middle.run events = some (rest, after) ∧
      log = entry :: rest := by
  obtain ⟨⟨entry, middle⟩, hstep, h⟩ := Option.bind_eq_some_iff.mp h
  obtain ⟨⟨rest, last⟩, hrest, h⟩ := Option.bind_eq_some_iff.mp h
  cases h
  exact ⟨entry, middle, rest, moves_of_step hstep, hrest, rfl⟩

theorem threads_withThread (w : World) (t t' : Nat) (contexts : Contexts)
    (frames : List Frame) :
    (w.withThread t contexts frames).threads t' =
      if t' = t then { active := contexts.active, frames := frames } else w.threads t' :=
  Function.update_apply ..

@[simp] theorem frames_withView (w : World) (t t' : Nat) (v : View) :
    ((w.withView t v).threads t').frames = (w.threads t').frames := by
  rw [withView, threads_withThread]
  split
  · next heq => rw [heq]
  · rfl

theorem active_withView (w : World) (t : Nat) (v : View) :
    ((w.withView t v).threads t).active = v.contexts.active := by
  rw [withView, threads_withThread, if_pos rfl]

theorem threads_withView_of_ne {w : World} {t t' : Nat} {v : View} (h : t' ≠ t) :
    (w.withView t v).threads t' = w.threads t' := by
  rw [withView, threads_withThread, if_neg h]

theorem guards_withView (w : World) (t : Nat) (v : View) :
    (w.withView t v).guards = Function.update w.guards (w.owner t) v.guards := rfl

theorem slots_withView (w : World) (t : Nat) (v : View) : (w.withView t v).slots = w.slots := rfl

theorem slots_setSlot (w : World) (i i' : Nat) (slot : Slot) :
    (w.setSlot i slot).slots i' = if i' = i then slot else w.slots i' :=
  Function.update_apply ..

theorem threads_begin (w : World) (t i t' : Nat) (kept : Option ContextId) :
    (w.begin t i kept).2.threads t' =
      if t' = t then
        { active := kept
          frames := { future := i, number := w.polls, before := (w.threads t).active } ::
            (w.threads t).frames }
      else w.threads t' :=
  threads_withThread ..

theorem slots_begin (w : World) (t i i' : Nat) (kept : Option ContextId) :
    (w.begin t i kept).2.slots i' = if i' = i then .polled t else w.slots i' :=
  slots_setSlot ..

theorem threads_finish (w : World) (t t' : Nat) (f : Frame) (frames : List Frame)
    (how : Polled) : (w.finish t f frames how).2.threads t' =
      if t' = t then { active := f.before, frames := frames } else w.threads t' :=
  threads_withThread ..

theorem slots_finish (w : World) (t i : Nat) (f : Frame) (frames : List Frame) (how : Polled) :
    (w.finish t f frames how).2.slots i =
      if i = f.future then .after how (w.threads t).active else w.slots i :=
  slots_setSlot ..

/-! ## What a poll does to a thread -/

theorem contexts_withThread (w : World) (t : Nat) (contexts : Contexts)
    (frames : List Frame) : (w.withThread t contexts frames).contexts t = contexts := by
  rw [World.contexts, threads_withThread, if_pos rfl]
  rfl

/-- For its thread a poll is parked work that is run, whatever happens between its beginning and
its end: all work that leads to the same contexts does the same. -/
theorem poll_runParked {α : Type} {w begun done after : World} {t i : Nat} {how : Polled}
    {kept : Option ContextId} {first last : Entry} {work : Contexts → α × Contexts} {result : α}
    (hslot : w.slots i = .parked kept) (hpoll : w.step (.poll t i) = some (first, begun))
    (hframes : (done.threads t).frames = (begun.threads t).frames)
    (hwork : work (begun.contexts t) = (result, done.contexts t))
    (hfinish : done.step (.finish t how) = some (last, after)) :
    (w.contexts t).runParked kept work =
        (result, (done.threads t).active, after.contexts t) ∧
      after.slots i = .after how (done.threads t).active := by
  have hbegun : (w.begin t i kept).2 = begun := by
    simp only [step, hslot, Option.some.injEq] at hpoll
    rw [hpoll]
  have hstart : begun.contexts t = ((w.contexts t).swap kept).2 := by
    rw [← hbegun]
    exact contexts_withThread ..
  have htop : (done.threads t).frames =
      { future := i, number := w.polls, before := (w.threads t).active } ::
        (w.threads t).frames := by
    rw [hframes, ← hbegun, threads_begin, if_pos rfl]
  have hafter : (done.finish t { future := i, number := w.polls, before := (w.threads t).active }
      (w.threads t).frames how).2 = after := by
    simp only [step, htop, Option.some.injEq] at hfinish
    rw [hfinish]
  rw [hstart] at hwork
  rw [← hafter]
  constructor
  · simp only [Contexts.runParked, hwork, finish, contexts_withThread]
    rfl
  · rw [slots_finish, if_pos rfl]

end World

namespace Session

/-- A poll of a task leaves the active context as it was: whatever the steps of the task do, with
polls inside the poll, and also if one of them panics. -/
theorem poll_active (fuel : Nat) (s : Session) (label : String) :
    (poll fuel s label).2.contexts.active = s.contexts.active := by
  cases fuel with
  | zero => rfl
  | succ fuel =>
    rw [poll]
    split
    · rfl
    · dsimp only
      split
      · rfl
      · split <;> rfl

end Session

end Context

end RemoteCall
