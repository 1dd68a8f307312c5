/-
Calls under watch, while contexts change.

A call that has started runs apart from the thread that made it, and others write to the contexts
that it can see. A watch looks at one attribute of such a call: which changes of contexts there
have been at each point of the run, and with what attribute and after how many changes each
request was sent. Most pieces of a call only let time pass. What survives that survives them, so
it is enough to look at the sends and at what writes the attribute.

* `Watch` — the call, the changes of contexts that there are from then on, and how the outside
  shows which of them are done and which requests were sent after how many of them.
* `Watch.Passes` — what time does to a call: whatever happens, happens after these changes.
* `Watch.Bystander` — an interceptor that, besides running the rest of the chain, only lets time
  pass. Tracing, the deadlines and whatever idles before and after the rest are such
  (`Watch.bystander_tracing`, `bystander_deadline`, `bystander_around`).
* `Watch.Sound`, `Watch.Loaded` — every request since the start has the attribute as it was read
  off the contexts, before and while the call itself has it.
* `Surroundings.Watched.failover` — a call that has the attribute sends only requests that have
  it, too, over all cycles and attempts.
-/
import RemoteCall.Call.Baggage
import RemoteCall.Proofs.Call.Requests
import RemoteCall.Proofs.Context.Changes

namespace RemoteCall

open Context (Change Shown moment)

variable {ω α β : Type}

/-! ## Pieces that carry a property -/

namespace Run

variable {P : Scene ω → Prop} {Q : α → Prop} {R : β → Prop}

/-- However the piece ends, a property of the scene survives it, and if it ends with a value, this
has a property, too. -/
def Carries (piece : Run ω α) (P : Scene ω → Prop) (Q : α → Prop) : Prop :=
  ∀ scene, P scene → P (piece scene).2 ∧ ∀ value, (piece scene).1 = .done value → Q value

/-- However the piece ends, a property of the scene survives it. -/
def Preserves (piece : Run ω α) (P : Scene ω → Prop) : Prop :=
  ∀ scene, P scene → P (piece scene).2

/-- The second of two pieces runs where the first one has ended with a value, or not at all. -/
theorem bind_cases (first : Run ω α) (next : α → Run ω β) (scene : Scene ω) :
    (∃ value, (first scene).1 = .done value ∧
        (first >>= next) scene = next value (first scene).2) ∨
      ((first >>= next) scene).2 = (first scene).2 ∧
        ∀ result, ((first >>= next) scene).1 ≠ .done result := by
  show (∃ value, _ ∧ Run.bind first next scene = _) ∨
    (Run.bind first next scene).2 = _ ∧ ∀ result, (Run.bind first next scene).1 ≠ _
  unfold Run.bind
  rcases first scene with ⟨value | _ | _, after⟩
  · exact .inl ⟨value, rfl, rfl⟩
  · exact .inr ⟨rfl, fun _ => nofun⟩
  · exact .inr ⟨rfl, fun _ => nofun⟩

theorem done_of_bind {first : Run ω α} {next : α → Run ω β} {scene after : Scene ω} {result : β}
    (h : (first >>= next) scene = (.done result, after)) :
    ∃ value middle, first scene = (.done value, middle) ∧
      next value middle = (.done result, after) := by
  rcases bind_cases first next scene with ⟨value, hdone, hbind⟩ | ⟨-, hnone⟩
  · exact ⟨value, _, Prod.ext hdone rfl, hbind ▸ h⟩
  · exact absurd (congrArg Prod.fst h) (hnone result)

theorem Carries.bind {first : Run ω α} {next : α → Run ω β} (h : first.Carries P Q)
    (hn : ∀ value, Q value → (next value).Carries P R) : (first >>= next).Carries P R := by
  intro scene hscene
  obtain ⟨hafter, hvalue⟩ := h scene hscene
  rcases bind_cases first next scene with ⟨value, hdone, hbind⟩ | ⟨hbind, hnone⟩
  · rw [hbind]
    exact hn value (hvalue value hdone) _ hafter
  · rw [hbind]
    exact ⟨hafter, fun result hresult => absurd hresult (hnone result)⟩

/-- Where only the scene matters in the end, it is enough that the first piece carries what the
second one needs. -/
theorem Carries.preserves_bind {first : Run ω α} {next : α → Run ω β} (h : first.Carries P Q)
    (hn : ∀ value, Q value → (next value).Preserves P) : (first >>= next).Preserves P := by
  intro scene hscene
  obtain ⟨hafter, hvalue⟩ := h scene hscene
  rcases bind_cases first next scene with ⟨value, hdone, hbind⟩ | ⟨hbind, -⟩
  · rw [hbind]
    exact hn value (hvalue value hdone) _ hafter
  · rw [hbind]
    exact hafter

theorem Preserves.carries {piece : Run ω α} (h : piece.Preserves P) :
    piece.Carries P fun _ => True :=
  fun scene hscene => ⟨h scene hscene, fun _ _ => trivial⟩

theorem Preserves.bind {first : Run ω α} {next : α → Run ω β} (h : first.Preserves P)
    (hn : ∀ value, (next value).Preserves P) : (first >>= next).Preserves P :=
  h.carries.preserves_bind fun value _ => hn value

theorem preserves_pure (value : α) : (pure value : Run ω α).Preserves P := fun _ h => h

theorem carries_pure {value : α} (h : Q value) : (pure value : Run ω α).Carries P Q := by
  refine fun _ hscene => ⟨hscene, fun _ hdone => ?_⟩
  cases hdone
  exact h

theorem preserves_invocation : (Run.invocation : Run ω Invocation).Preserves P := fun _ h => h

end Run

/-! ## Calls under watch -/

/-- A call that is watched, from the moment when it was made. -/
structure Watch (ω : Type) where
  /-- How many changes of contexts there have been. -/
  done : ω → Nat
  /-- The requests that were sent, each with the number of changes before it. -/
  sent : ω → List (Nat × Request)
  /-- The contexts as they were. -/
  forest : Forest
  /-- What is done to them from then on. -/
  changes : List Change
  /-- The context of the call. -/
  context : ContextId
  /-- The attribute that is watched. -/
  key : String

namespace Watch

variable (w : Watch ω)

/-- The contexts after so many changes. -/
def contexts (n : Nat) : Forest := moment w.forest w.changes n

/-- What the call can have read off its contexts, once there have been so many changes. -/
def Read (n : Nat) (value : Option String) : Prop :=
  ∃ m ≤ n, Shown w.contexts w.key (w.forest.chain w.context) m value

/-- From one scene to a later one the call keeps its context and the attribute, contexts change as
they do, and requests are sent. -/
structure Passes (before after : Scene ω) (log : List (Nat × Request)) : Prop where
  context : after.invocation.context = before.invocation.context
  kept : after.invocation.attributes[w.key]? = before.invocation.attributes[w.key]?
  later : w.done before.outside ≤ w.done after.outside
  timely : before.contexts.forest = w.contexts (w.done before.outside) →
    after.contexts.forest = w.contexts (w.done after.outside)
  sent : w.sent after.outside = w.sent before.outside ++ log
  since : ∀ entry ∈ log, w.done before.outside ≤ entry.1

variable {w} {before middle after : Scene ω} {log more : List (Nat × Request)}

theorem Read.mono {m n : Nat} {value : Option String} (h : w.Read m value) (later : m ≤ n) :
    w.Read n value := by
  obtain ⟨k, hk, hshown⟩ := h
  exact ⟨k, Nat.le_trans hk later, hshown⟩

namespace Passes

theorem refl (scene : Scene ω) : w.Passes scene scene [] where
  context := rfl
  kept := rfl
  later := Nat.le_refl _
  timely h := h
  sent := (List.append_nil _).symm
  since _ h := nomatch h

theorem trans (h : w.Passes before middle log) (h' : w.Passes middle after more) :
    w.Passes before after (log ++ more) where
  context := h'.context.trans h.context
  kept := h'.kept.trans h.kept
  later := Nat.le_trans h.later h'.later
  timely hbefore := h'.timely (h.timely hbefore)
  sent := by rw [h'.sent, h.sent, List.append_assoc]
  since entry hentry := by
    rcases List.mem_append.mp hentry with hlog | hmore
    · exact h.since entry hlog
    · exact Nat.le_trans h.later (h'.since entry hmore)

end Passes

end Watch

/-- Nothing but time passes while the piece runs. -/
def Run.Idles (w : Watch ω) (piece : Run ω α) : Prop :=
  ∀ scene, w.Passes scene (piece scene).2 []

/-- The piece sends a request, once. -/
def Run.Sends (w : Watch ω) (request : Request) (piece : Run ω α) : Prop :=
  ∀ scene, ∃ n, w.Passes scene (piece scene).2 [(n, request)]

namespace Run

variable {w : Watch ω}

theorem idles_pure (value : α) : (pure value : Run ω α).Idles w := fun scene => .refl scene

theorem idles_scene : (Run.scene : Run ω (Scene ω)).Idles w := fun scene => .refl scene

theorem idles_invocation : (Run.invocation : Run ω Invocation).Idles w := fun scene => .refl scene

theorem idles_changeInvocation {change : Invocation → Invocation}
    (context : ∀ i, (change i).context = i.context)
    (kept : ∀ i, (change i).attributes[w.key]? = i.attributes[w.key]?) :
    (Run.changeInvocation change : Run ω Unit).Idles w := fun scene =>
  { Watch.Passes.refl scene with
    context := context scene.invocation
    kept := kept scene.invocation }

theorem Idles.bind {first : Run ω α} {next : α → Run ω β} (h : first.Idles w)
    (hn : ∀ value, (next value).Idles w) : (first >>= next).Idles w := by
  intro scene
  rcases bind_cases first next scene with ⟨value, -, hbind⟩ | ⟨hbind, -⟩
  · rw [hbind]
    exact (h scene).trans (hn value _)
  · rw [hbind]
    exact h scene

end Run

namespace Watch

variable (w : Watch ω)

/-- Time that passes makes no difference to the property. -/
def Lasts (P : Scene ω → Prop) : Prop :=
  ∀ before after, P before → w.Passes before after [] → P after

/-- Besides running the rest of the chain, the interceptor only lets time pass: it keeps whatever
the rest keeps and the passing of time does. -/
def Bystander (interceptor : Interceptor ω) : Prop :=
  ∀ P, w.Lasts P → ∀ rest : Run ω Outcome, rest.Preserves P → (interceptor rest).Preserves P

variable {w}

theorem Lasts.preserves {P : Scene ω → Prop} (h : w.Lasts P) {piece : Run ω α}
    (idles : piece.Idles w) : piece.Preserves P :=
  fun scene hscene => h scene _ hscene (idles scene)

theorem bystander_tracing : w.Bystander tracing := fun _ _ _ h => h

/-- Whoever has a turn before the rest of the chain and another one after it. -/
theorem bystander_around {first last : Run ω Unit} (hfirst : first.Idles w)
    (hlast : last.Idles w) :
    w.Bystander fun rest => do
      first
      let outcome ← rest
      last
      return outcome := by
  refine fun P lasts rest h => (lasts.preserves hfirst).bind fun _ => h.bind fun outcome => ?_
  exact (lasts.preserves hlast).bind fun _ => Run.preserves_pure outcome

/-- A stamp writes two attributes. -/
theorem idles_stamp {clock : Run ω Nat} (idles : clock.Idles w) (htimeout : w.key ≠ timeoutKey)
    (hdeadline : w.key ≠ deadlineKey) : (Deadline.stamp clock).Idles w := by
  have hlabel : ∀ deadline,
      (Run.changeInvocation (Deadline.label · deadline) : Run ω Unit).Idles w := fun deadline =>
    Run.idles_changeInvocation (fun _ => rfl) fun i => by
      rw [Deadline.label_eq, Deadline.getElem?_stamped, if_neg hdeadline, if_neg htimeout]
  refine idles.bind fun now => Run.idles_scene.bind fun scene => ?_
  dsimp only
  split
  · exact Run.idles_pure _
  · exact (hlabel _).bind fun _ => Run.idles_pure _

theorem bystander_deadline {clock : Run ω Nat} (idles : clock.Idles w)
    (htimeout : w.key ≠ timeoutKey) (hdeadline : w.key ≠ deadlineKey) :
    w.Bystander (Deadline.interceptor clock) := by
  intro P lasts rest h
  refine (lasts.preserves (idles_stamp idles htimeout hdeadline)).bind fun stamped => ?_
  cases stamped with
  | error e => exact Run.preserves_pure _
  | ok u => exact h

/-! ## What holds all along a call -/

/-- Before the call has its baggage, and after it: contexts are as the changes left them. The
attribute is not there yet or was read off them, and all requests since the log was `old` have it
as it was read. -/
structure Sound (w : Watch ω) (old : List (Nat × Request)) (scene : Scene ω) : Prop where
  context : scene.invocation.context = some w.context
  timely : scene.contexts.forest = w.contexts (w.done scene.outside)
  kept : scene.invocation.attributes[w.key]? = none ∨
    w.Read (w.done scene.outside) scene.invocation.attributes[w.key]?
  sent : ∃ log, w.sent scene.outside = old ++ log ∧
    ∀ entry ∈ log, w.Read entry.1 entry.2.header.attributes[w.key]?

/-- While the call has its baggage: the attribute is what was read. -/
structure Loaded (w : Watch ω) (old : List (Nat × Request)) (value : Option String)
    (scene : Scene ω) : Prop extends w.Sound old scene where
  loaded : scene.invocation.attributes[w.key]? = value
  read : w.Read (w.done scene.outside) value

variable {old : List (Nat × Request)} {value : Option String} {scene : Scene ω}

theorem Sound.passes (h : w.Sound old before) (passes : w.Passes before after log)
    (hlog : ∀ entry ∈ log, w.Read entry.1 entry.2.header.attributes[w.key]?) :
    w.Sound old after where
  context := passes.context.trans h.context
  timely := passes.timely h.timely
  kept := by
    rw [passes.kept]
    exact h.kept.imp_right fun hread => hread.mono passes.later
  sent := by
    obtain ⟨sofar, hsent, hreads⟩ := h.sent
    refine ⟨sofar ++ log, by rw [passes.sent, hsent, List.append_assoc], fun entry hentry => ?_⟩
    exact (List.mem_append.mp hentry).elim (hreads entry) (hlog entry)

theorem lasts_sound (old : List (Nat × Request)) : w.Lasts (w.Sound old) :=
  fun _ _ h passes => h.passes passes fun _ hentry => nomatch hentry

/-- Requests with the baggage of the call may be sent. -/
theorem Loaded.passes (h : w.Loaded old value before) (passes : w.Passes before after log)
    (hlog : ∀ entry ∈ log, entry.2.header.attributes[w.key]? = value) :
    w.Loaded old value after where
  toSound := by
    refine h.toSound.passes passes fun entry hentry => ?_
    rw [hlog entry hentry]
    exact h.read.mono (passes.since entry hentry)
  loaded := passes.kept.trans h.loaded
  read := h.read.mono passes.later

theorem lasts_loaded (old : List (Nat × Request)) (value : Option String) :
    w.Lasts (w.Loaded old value) :=
  fun _ _ h passes => h.passes passes fun _ hentry => nomatch hentry

end Watch

/-! ## Locating and sending -/

/-- Of the surroundings only a send sends, and it sends what it is given. -/
structure Surroundings.Watched (s : Surroundings ω) (w : Watch ω) : Prop where
  locate : ∀ exclusions, (s.locate exclusions).Idles w
  send : ∀ node request, (s.send node request).Sends w request
  feedback : ∀ node outcome elapsed, (s.feedback node outcome elapsed).Idles w
  clock : s.clock.Idles w
  stopwatch : s.stopwatch.Idles w

/-- The framework itself does not write the attribute. -/
structure Watch.Foreign (w : Watch ω) : Prop where
  serializer : w.key ≠ serializerKey
  compressor : w.key ≠ compressorKey
  timeout : w.key ≠ timeoutKey
  deadline : w.key ≠ deadlineKey

namespace Surroundings.Watched

variable {s : Surroundings ω} {w : Watch ω} {old : List (Nat × Request)} {value : Option String}

open Run (preserves_pure preserves_invocation)

/-- The request has the baggage of the call. -/
def Bears (w : Watch ω) (value : Option String) : Except CallError Request → Prop
  | .error _ => True
  | .ok request => request.header.attributes[w.key]? = value

theorem carries_encode (foreign : w.Foreign) :
    (Surroundings.encode : Run ω _).Carries (w.Loaded old value) (Bears w value) := by
  intro scene h
  cases hencode : scene.invocation.encode with
  | error e =>
    have hread : (Run.invocation : Run ω _) scene = (.done scene.invocation, scene) := rfl
    have hrun : Surroundings.encode scene = (.done (.error (.codec e)), scene) := by
      refine (Run.bind_of_done hread).trans ?_
      rw [hencode]
      rfl
    rw [hrun]
    refine ⟨h, fun _ hdone => ?_⟩
    cases hdone
    trivial
  | ok pair =>
    obtain ⟨request, labelled⟩ := pair
    have hrequest := Invocation.getElem?_of_encode hencode foreign.serializer foreign.compressor
    have hlabelled : request.header.attributes = labelled.attributes :=
      (Invocation.StandsFor.of_encode hencode).attributes
    have hcontext := congrArg Invocation.context (Invocation.asMade_of_encode hencode)
    have hpasses : w.Passes scene { scene with invocation := labelled } [] :=
      { Watch.Passes.refl scene with
        context := hcontext
        kept := hlabelled ▸ hrequest }
    rw [(encode_logs hencode).plain]
    refine ⟨h.passes hpasses (fun _ hentry => nomatch hentry), fun _ hdone => ?_⟩
    cases hdone
    exact hrequest.trans h.loaded

variable (hs : s.Watched w)
include hs

theorem preserves_attempt {request : Request}
    (hrequest : request.header.attributes[w.key]? = value) (node : ServiceInstance) :
    (s.attempt request node).Preserves (w.Loaded old value) := by
  have lasts := w.lasts_loaded old value
  have hsend : (s.send node request).Preserves (w.Loaded old value) := by
    intro scene h
    obtain ⟨n, hpasses⟩ := hs.send node request scene
    refine h.passes hpasses fun entry hentry => ?_
    rw [List.mem_singleton.mp hentry]
    exact hrequest
  refine (lasts.preserves (Run.idles_changeInvocation ?_ ?_)).bind fun _ =>
    (lasts.preserves hs.stopwatch).bind fun _ => hsend.bind fun _ =>
      (lasts.preserves hs.stopwatch).bind fun _ => preserves_invocation.bind fun _ =>
        (lasts.preserves (hs.feedback _ _ _)).bind fun _ => preserves_pure _
  · exact fun _ => rfl
  · exact fun _ => rfl

theorem preserves_connectCycle {request : Request}
    (hrequest : request.header.attributes[w.key]? = value) (budget : Nat)
    (failed : List ServiceInstance) (last : Option CallError) :
    (s.connectCycle request budget failed last).Preserves (w.Loaded old value) := by
  induction budget generalizing failed last with
  | zero => exact preserves_invocation.bind fun _ => preserves_pure _
  | succ budget ih =>
    refine ((w.lasts_loaded old value).preserves (hs.locate failed)).bind fun picked => ?_
    cases picked with
    | none => exact preserves_invocation.bind fun _ => preserves_pure _
    | some node =>
      refine (hs.preserves_attempt hrequest node).bind fun outcome => ?_
      cases outcome with
      | error e =>
        dsimp only
        split
        · exact ih _ _
        · exact preserves_pure _
      | ok reply => exact preserves_pure _

theorem carries_renew (foreign : w.Foreign) {request : Request}
    (hrequest : request.header.attributes[w.key]? = value) :
    (s.renew request).Carries (w.Loaded old value) (Bears w value) := by
  have hstamp : (Deadline.stamp s.clock).Preserves (w.Loaded old value) :=
    (w.lasts_loaded old value).preserves
      (Watch.idles_stamp hs.clock foreign.timeout foreign.deadline)
  refine preserves_invocation.carries.bind fun invocation _ => ?_
  split
  · refine hstamp.carries.bind fun stamped _ => ?_
    cases stamped with
    | error e => exact Run.carries_pure trivial
    | ok u => exact carries_encode foreign
  · exact Run.carries_pure hrequest

theorem preserves_cycles (foreign : w.Foreign) (more : Nat) {request : Request}
    (hrequest : request.header.attributes[w.key]? = value) :
    (s.cycles more request).Preserves (w.Loaded old value) := by
  have hcycle : ∀ {request : Request}, request.header.attributes[w.key]? = value →
      (s.cycle request).Preserves (w.Loaded old value) := fun hrequest =>
    preserves_invocation.bind fun _ => hs.preserves_connectCycle hrequest _ _ _
  induction more generalizing request with
  | zero => exact hcycle hrequest
  | succ more ih =>
    refine (hcycle hrequest).bind fun outcome => ?_
    cases outcome with
    | ok reply => exact preserves_pure _
    | error e =>
      dsimp only
      split
      · refine (hs.carries_renew foreign hrequest).preserves_bind fun renewed hrenewed => ?_
        cases renewed with
        | error e => exact preserves_pure _
        | ok request => exact ih hrenewed
      · exact preserves_pure _

/-- **A call that has its baggage sends only requests with this baggage.** -/
theorem failover (foreign : w.Foreign) : s.failover.Preserves (w.Loaded old value) := by
  refine (carries_encode foreign).preserves_bind fun encoded hencoded => ?_
  cases encoded with
  | error e => exact preserves_pure _
  | ok request => exact preserves_invocation.bind fun _ => hs.preserves_cycles foreign _ hencoded

end Surroundings.Watched

end RemoteCall
