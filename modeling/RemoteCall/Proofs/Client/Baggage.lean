/-
What baggage a call carries while others write.

The call's context is made when the call is, as a child of the context that is active then. But
it only knows its parent, and the baggage is looked up when the call runs, apart from the thread
that made it. So what that thread writes in between travels along. The look-up takes one context
after the other, and writes can come between them as well: `Baggage.interleaved` gives others a
turn before each context, and without such turns it is the interceptor
(`Baggage.interleaved_idle`).

* `Watch.shown_readEach` — what is read is what the contexts showed, each at a moment of its own.
* `Watch.preserves_chain` — one interceptor that takes up baggage, among bystanders: requests have
  what it read.
* `Client.baggage_is_read_on_the_way` — the baggage of every request is what the contexts showed
  while it was read, each of them at a moment between the making of the call and the send.
* `Client.baggage_is_not_fixed` — it need not be what was visible when the call was made.
-/
import Mathlib.Data.List.Basic
import RemoteCall.Call.Baggage
import RemoteCall.Proofs.Call.Watch
import RemoteCall.Proofs.Client.Surroundings

namespace RemoteCall

open Context (Change Shown moment)

variable {ω : Type}

/-! ## Reading contexts one by one -/

namespace Baggage

/-- The value of a key, found in the list of all entries. -/
theorem find?_toList (entries : Attributes) (key : String) :
    (entries.toList.find? (compare ·.1 key == .eq)).map (·.2) = entries[key]? := by
  cases h : entries.toList.find? (compare ·.1 key == .eq) with
  | none =>
    have habsent := Std.ExtTreeMap.find?_toList_eq_none_iff_not_mem.mp h
    rw [Std.ExtTreeMap.getElem?_eq_none habsent, Option.map_none]
  | some entry =>
    obtain ⟨name, value⟩ := entry
    exact (Std.ExtTreeMap.find?_toList_eq_some_iff_getKey?_eq_some_and_getElem?_eq_some.mp h).2.symm

theorem getElem?_insertIfNew (table : Attributes) (name value key : String) :
    (Std.ExtTreeMap.insertIfNew table name value)[key]? =
      (table[key]?).or (if compare name key = .eq then some value else none) := by
  rw [Std.ExtTreeMap.getElem?_insertIfNew]
  by_cases hname : compare name key = .eq
  · obtain rfl := Std.LawfulEqCmp.eq_of_compare hname
    simp only [Std.ExtTreeMap.mem_iff_isSome_getElem?, hname, true_and, if_true]
    cases table[name]? <;> rfl
  · simp [hname]

/-- What baggage is added under a key: nothing replaces an attribute that is there. -/
theorem getElem?_add (start : String) (entries attributes : Attributes) (key : String) :
    (add start entries attributes)[key]? = (attributes[key]?).or
      (if start.toList.isPrefixOf key.toList then entries[key]? else none) := by
  rw [add, Std.ExtTreeMap.foldl_eq_foldl_toList, ← find?_toList entries]
  -- the first entry of a name wins
  induction entries.toList generalizing attributes with
  | nil => simp
  | cons entry rest ih =>
    obtain ⟨name, value⟩ := entry
    rw [List.foldl_cons, ih, List.find?_cons]
    by_cases hname : compare name key = .eq
    · obtain rfl := Std.LawfulEqCmp.eq_of_compare hname
      split
      · rw [getElem?_insertIfNew, if_pos hname]
        cases attributes[name]? <;> simp
      · rfl
    · rw [beq_false_of_ne hname]
      split
      · rw [getElem?_insertIfNew, if_neg hname, Option.or_none]
      · rfl

variable {turn : Run ω Unit}

/-- Reads what contexts hold, the farthest first, with a turn for others before each; the list
has the nearest first. -/
def readEach (turn : Run ω Unit) : List ContextId → Run ω Attributes
  | [] => pure ∅
  | id :: farther => do
    let visible ← readEach turn farther
    turn
    let scene ← Run.scene
    return visible.extend (scene.contexts.forest.values id)

/-- The interceptor that takes up the baggage, with a turn for others before each context. -/
def interleaved (turn : Run ω Unit) (start : String) : Interceptor ω := fun rest => do
  let scene ← Run.scene
  match scene.invocation.context with
  | none => rest
  | some id =>
    let entries ← readEach turn (scene.contexts.forest.chain id)
    Run.changeInvocation fun i => { i with attributes := add start entries i.attributes }
    rest

theorem readEach_idle (chain : List ContextId) (scene : Scene ω) :
    readEach (pure ()) chain scene = (.done (chain.foldr (fun id visible =>
      visible.extend (scene.contexts.forest.values id)) ∅), scene) := by
  induction chain with
  | nil => rfl
  | cons id farther ih =>
    rw [readEach, Run.bind_of_done ih]
    rfl

/-- If nobody uses the turns, this is the interceptor. -/
theorem interleaved_idle (start : String) :
    interleaved (pure ()) start = (interceptor start : Interceptor ω) := by
  funext rest scene
  show (match scene.invocation.context with | none => _ | some id => _ : Run ω Outcome) scene =
    (match scene.invocation.context with | none => _ | some id => _ : Run ω Outcome) scene
  cases scene.invocation.context with
  | none => rfl
  | some id => exact Run.bind_of_done (readEach_idle _ scene)

end Baggage

/-! ## Taking up the baggage -/

namespace Watch

variable {w : Watch ω} {old : List (Nat × Request)}

theorem idles_readEach {turn : Run ω Unit} (idles : turn.Idles w) (chain : List ContextId) :
    (Baggage.readEach turn chain).Idles w := by
  induction chain with
  | nil => exact Run.idles_pure _
  | cons id farther ih =>
    exact ih.bind fun visible => idles.bind fun _ => Run.idles_scene.bind fun scene =>
      Run.idles_pure _

/-- Whoever takes up baggage under another prefix. -/
theorem bystander_baggage {turn : Run ω Unit} (idles : turn.Idles w) {start : String}
    (elsewhere : start.toList.isPrefixOf w.key.toList = false) :
    w.Bystander (Baggage.interleaved turn start) := by
  refine fun P lasts rest h => (lasts.preserves Run.idles_scene).bind fun scene => ?_
  split
  · exact h
  · next id _ =>
    refine (lasts.preserves (idles_readEach idles _)).bind fun entries => ?_
    refine (lasts.preserves (Run.idles_changeInvocation ?_ ?_)).bind fun _ => h
    · exact fun _ => rfl
    · intro i
      rw [Baggage.getElem?_add, elsewhere, if_neg Bool.false_ne_true, Option.or_none]

/-- What is read is what the contexts showed, each at the moment when it was read. -/
theorem shown_readEach {turn : Run ω Unit} (idles : turn.Idles w) (chain : List ContextId) :
    ∀ scene : Scene ω, scene.contexts.forest = w.contexts (w.done scene.outside) →
      ∀ entries after, Baggage.readEach turn chain scene = (.done entries, after) →
        ∃ m ≤ w.done after.outside, Shown w.contexts w.key chain m entries[w.key]? := by
  induction chain with
  | nil =>
    rintro scene - entries after hread
    cases hread
    rw [Std.ExtTreeMap.getElem?_empty]
    exact ⟨0, Nat.zero_le _, .nothing 0⟩
  | cons id farther ih =>
    intro scene htimely entries after hread
    obtain ⟨visible, middle, hfarther, hread⟩ := Run.done_of_bind hread
    obtain ⟨_, later, hturn, hread⟩ := Run.done_of_bind hread
    obtain ⟨rfl, rfl⟩ : visible.extend (later.contexts.forest.values id) = entries ∧
        later = after := by
      cases hread
      exact ⟨rfl, rfl⟩
    obtain ⟨m, hm, hshown⟩ := ih scene htimely visible middle hfarther
    have hbefore : w.Passes scene middle [] := by
      have hpasses := idles_readEach idles farther scene
      rwa [hfarther] at hpasses
    have hafter : w.Passes middle later [] := by
      have hpasses := idles middle
      rwa [hturn] at hpasses
    refine ⟨w.done later.outside, Nat.le_refl _, ?_⟩
    rw [Attributes.getElem?_extend, hafter.timely (hbefore.timely htimely)]
    exact .context hshown (Nat.le_trans hm hafter.later)

/-- The rest of the chain runs with the baggage that was read. -/
theorem preserves_interleaved {turn : Run ω Unit} (idles : turn.Idles w) {start : String}
    (made : w.context < w.forest.length) (prefixed : start.toList.isPrefixOf w.key.toList = true)
    {rest : Run ω Outcome} (h : ∀ value, rest.Preserves (w.Loaded old value)) :
    (Baggage.interleaved turn start rest).Preserves (w.Sound old) := by
  intro scene hscene
  have hchain : scene.contexts.forest.chain w.context = w.forest.chain w.context := by
    rw [hscene.timely]
    exact Context.chain_moment made
  let reading : Run ω Attributes := Baggage.readEach turn (w.forest.chain w.context)
  let taking : Attributes → Run ω Outcome := fun entries => do
    Run.changeInvocation fun i => { i with attributes := Baggage.add start entries i.attributes }
    rest
  have hrun : Baggage.interleaved turn start rest scene = (reading >>= taking) scene := by
    show (match scene.invocation.context with | none => _ | some id => _ : Run ω Outcome) scene = _
    rw [hscene.context]
    simp only [hchain, reading, taking]
  rw [hrun]
  have hread : w.Sound old (reading scene).2 :=
    lasts_sound old _ _ hscene (idles_readEach idles _ scene)
  rcases Run.bind_cases reading taking scene with ⟨entries, hdone, hbind⟩ | ⟨hbind, -⟩
  · have hshown : w.Read (w.done (reading scene).2.outside) entries[w.key]? :=
      shown_readEach idles _ scene hscene.timely entries _ (Prod.ext hdone rfl)
    let attributes := Baggage.add start entries (reading scene).2.invocation.attributes
    have hkept : w.Read (w.done (reading scene).2.outside) attributes[w.key]? := by
      rw [Baggage.getElem?_add, if_pos prefixed]
      cases hvalue : (reading scene).2.invocation.attributes[w.key]? with
      | none => exact hshown
      | some value =>
        have hread := hread.kept.resolve_left (by simp [hvalue])
        rw [hvalue] at hread
        exact hread
    rw [hbind]
    refine (h attributes[w.key]? _ ?_).toSound
    exact ⟨⟨hread.context, hread.timely, .inr hkept, hread.sent⟩, rfl, hkept⟩
  · rw [hbind]
    exact hread

/-- Bystanders keep what they are around keeps. -/
theorem preserves_buildChain {P : Scene ω → Prop} (lasts : w.Lasts P) {terminal : Handler ω}
    (h : terminal.Preserves P) {interceptors : List (Interceptor ω)}
    (bystanders : ∀ i ∈ interceptors, w.Bystander i) :
    (buildChain terminal interceptors).Preserves P := by
  induction interceptors with
  | nil => exact h
  | cons first rest ih =>
    have hrest := ih fun i hi => bystanders i (List.mem_cons_of_mem _ hi)
    exact bystanders first (List.mem_cons_self ..) P lasts _ hrest

/-- A chain of bystanders with the baggage among them. -/
theorem preserves_chain {s : Surroundings ω} (hs : s.Watched w) (foreign : w.Foreign)
    (made : w.context < w.forest.length) {turn : Run ω Unit} (idles : turn.Idles w)
    {start : String} (prefixed : start.toList.isPrefixOf w.key.toList = true)
    {before after : List (Interceptor ω)} (bystanders : ∀ i ∈ before ++ after, w.Bystander i) :
    (buildChain s.failover (before ++ Baggage.interleaved turn start :: after)).Preserves
      (w.Sound old) := by
  have hafter : ∀ value,
      (buildChain s.failover after).Preserves (w.Loaded old value) := fun value =>
    preserves_buildChain (lasts_loaded old value) (hs.failover foreign) fun i hi =>
      bystanders i (List.mem_append_right before hi)
  have hchain : buildChain s.failover (before ++ Baggage.interleaved turn start :: after) =
      buildChain (Baggage.interleaved turn start (buildChain s.failover after)) before := by
    rw [buildChain, List.foldr_append]
    rfl
  rw [hchain]
  exact preserves_buildChain (lasts_sound old) (preserves_interleaved idles made prefixed hafter)
    fun i hi => bystanders i (List.mem_append_left after hi)

end Watch

/-! ## Clients -/

/-- How a world shows what has happened in it since a call was made. -/
structure Observer (W : Type) where
  /-- How many changes of contexts there have been. -/
  done : W → Nat
  /-- The requests that were sent, each with the number of changes before it. -/
  sent : W → List (Nat × Request)

variable {L W : Type}

/-- The watch on a call that is made on a thread with these contexts. -/
def Observer.watch (o : Observer W) (contexts : Contexts) (changes : List Change) (key : String) :
    Watch (Network L W) where
  done network := o.done network.world
  sent network := o.sent network.world
  forest := contexts.create.2.forest
  changes := changes
  context := contexts.create.1
  key := key

/-- Before it holds anything itself, a new context shows what the active one does. -/
theorem Contexts.get_create (contexts : Contexts) (key : String) :
    contexts.create.2.forest.get contexts.create.1 key =
      contexts.active.bind fun id => contexts.forest.get id key :=
  contexts.forest.get_add contexts.active key

namespace Client

variable [Locator L] {c : Client L W} {contexts kept : Contexts}

omit [Locator L] in
/-- A call that has started has a context of its own, and no attributes yet. -/
theorem invoke_started {imported : Import} {method : MethodConfig} {parameter : Option Json}
    {invocation : Invocation} {link : Option Nat}
    (h : c.invoke contexts imported method parameter = (.started invocation link, kept)) :
    invocation.context = some contexts.create.1 ∧ invocation.attributes = ∅ ∧
      kept.forest = contexts.create.2.forest := by
  unfold invoke at h
  split at h
  · cases h
  · cases h
    refine ⟨rfl, rfl, ?_⟩
    unfold Contexts.close
    split <;> rfl

/-- Of what a client depends on only the connector sends, and it sends what it is given. -/
structure Watched (c : Client L W) (w : Watch (Network L W)) : Prop where
  send : ∀ node request, (c.connector node request).Sends w request
  clock : c.clock.Idles w
  stopwatch : c.stopwatch.Idles w

theorem Watched.surroundings {o : Observer W} {changes : List Change} {key : String}
    (h : c.Watched (o.watch contexts changes key)) (link : Option Nat) :
    (c.surroundings link).Watched (o.watch contexts changes key) := by
  have hworld : ∀ {α : Type} (act : Network L W → α × Network L W),
      (∀ network, (act network).2.world = network.world) →
        (Run.outside act).Idles (o.watch contexts changes key) := by
    intro α act hact scene
    have hdone : o.done (act scene.outside).2.world = o.done scene.outside.world := by
      rw [hact]
    exact { Watch.Passes.refl scene with
      later := Nat.le_of_eq hdone.symm
      timely := fun htimely => htimely.trans (congrArg _ hdone.symm)
      sent := by
        rw [List.append_nil]
        exact congrArg o.sent (hact scene.outside) }
  refine ⟨fun exclusions => ?_, h.send, fun node outcome elapsed => ?_, h.clock, h.stopwatch⟩
  · refine Run.idles_invocation.bind fun invocation => hworld _ fun network => ?_
    unfold Network.locate
    split <;> split <;> rfl
  · refine hworld _ fun network => ?_
    unfold Network.feedback
    split <;> rfl

/-- **Baggage is read on the way.** -/
theorem baggage_is_read_on_the_way {imported : Import} {method : MethodConfig}
    {parameter : Option Json} {invocation : Invocation} {link : Option Nat}
    (invoked : c.invoke contexts imported method parameter = (.started invocation link, kept))
    {o : Observer W} {changes : List Change} {key : String}
    (watched : c.Watched (o.watch contexts changes key)) {turn : Run (Network L W) Unit}
    (idles : turn.Idles (o.watch contexts changes key)) {start : String}
    {before after : List (Interceptor (Network L W))}
    (chain : c.interceptors = before ++ Baggage.interleaved turn start :: after)
    (bystanders : ∀ i ∈ before ++ after, (o.watch contexts changes key).Bystander i)
    (prefixed : start.toList.isPrefixOf key.toList = true)
    (foreign : key ∉ [serializerKey, compressorKey, timeoutKey, deadlineKey])
    {running : Contexts}
    (begun : running.forest = moment kept.forest changes (o.done c.network.world)) :
    ∃ log, o.sent (c.run running invocation link).2.2.network.world =
        o.sent c.network.world ++ log ∧
      ∀ n request, (n, request) ∈ log →
        (∃ m ≤ n, Shown (moment kept.forest changes) key
          (kept.forest.chain contexts.forest.length) m request.header.attributes[key]?) ∧
        ((∀ change ∈ changes.take n, ∀ id ∈ kept.forest.chain contexts.forest.length,
            change.writes id key = false) →
          request.header.attributes[key]? =
            contexts.active.bind fun id => contexts.forest.get id key) := by
  let w : Watch (Network L W) := o.watch contexts changes key
  obtain ⟨hcontext, hattributes, hforest⟩ := invoke_started invoked
  have hforeign : w.Foreign := by
    simp only [List.mem_cons, List.not_mem_nil, or_false, not_or] at foreign
    exact ⟨foreign.1, foreign.2.1, foreign.2.2.1, foreign.2.2.2⟩
  have hpreserves : (c.handler link).Preserves (w.Sound (o.sent c.network.world)) := by
    rw [handler, chain]
    exact Watch.preserves_chain (watched.surroundings link) hforeign (Nat.lt_succ_self _) idles
      prefixed bystanders
  let scene : Scene (Network L W) :=
    { invocation := invocation, contexts := (running.swap invocation.context).2,
      outside := c.network }
  have htimely : running.forest = w.contexts (w.done c.network) := by
    rw [begun, hforest]
    rfl
  have habsent : invocation.attributes[key]? = none := by
    rw [hattributes, Std.ExtTreeMap.getElem?_empty]
  have hstart : w.Sound (o.sent c.network.world) scene :=
    { context := hcontext
      timely := htimely
      kept := .inl habsent
      sent := ⟨[], (List.append_nil _).symm, fun _ hentry => nomatch hentry⟩ }
  obtain ⟨log, hlog, hreads⟩ := (hpreserves scene hstart).sent
  rw [hforest]
  refine ⟨log, hlog, fun n request hentry => ?_⟩
  obtain ⟨m, hm, hshown⟩ := hreads (n, request) hentry
  refine ⟨⟨m, hm, hshown⟩, fun unwritten => ?_⟩
  have hget := hshown.eq_get fun change hchange =>
    unwritten change (List.take_subset_take_left changes hm hchange)
  exact hget.trans (contexts.get_create key)

end Client

/-! ## A client with a post book -/

/-- Counts the changes of contexts, and keeps the requests that were sent. -/
structure Post where
  done : Nat := 0
  sent : List (Nat × Request) := []

namespace Post

variable {L : Type}

def observer : Observer Post := { done := Post.done, sent := Post.sent }

/-- Keeps every request, and answers it with nothing. -/
def connector : Connector (Network L Post) := fun _ request =>
  Run.world fun post => (.ok { status := .success, attributes := ∅, body := [] },
    { post with sent := post.sent ++ [(post.done, request)] })

/-- A client with a direct link to the greeters. -/
def client (interceptors : List (Interceptor (Network DirectLocator Post))) :
    Client DirectLocator Post where
  config := {}
  references := ∅
  plugins := .builtIn
  connector := connector
  interceptors := interceptors
  clock := pure 0
  stopwatch := pure 0
  closed := false
  network := { shared := none, links := [{ instances := Script.greeters }], world := {} }

/-- A call of the greeters, as yet without a context. -/
def greeting : Invocation := (Script.greeting 1 1 (Script.linked [])).invocation

/-- The imported greeters. -/
def greeter : Import := { service := greeting.service, link := some 0, typed := false }

/-- A thread with an active context that holds a tenant. -/
def contexts : Contexts :=
  { forest := [{ parent := none, values := Std.ExtTreeMap.ofList [("baggage.tenant", "acme")] }]
    active := some 0 }

/-- The call of a greeter on that thread. -/
def call : Invocation := { greeting with context := some 1 }

/-- The contexts once the call is made. -/
def kept : Contexts := { contexts.create.2 with active := some 0 }

/-- The tenants that went with the requests. -/
def tenants (post : Post) : List (Option String) :=
  post.sent.map fun (_, request) => request.header.attributes["baggage.tenant"]?

/-- The next change of contexts happens, if there is one. -/
def turn (changes : List Change) : Run (Network L Post) Unit := fun scene =>
  match changes[scene.outside.world.done]? with
  | none => (.done (), scene)
  | some change => (.done (), { scene with
      contexts := { scene.contexts with forest := change.apply scene.contexts.forest }
      outside := { scene.outside with
        world := { scene.outside.world with done := scene.outside.world.done + 1 } } })

/-- The thread changes the tenant twice. -/
def changes : List Change := [.put 0 "baggage.tenant" "late", .put 0 "baggage.tenant" "later"]

/-- A client of which nothing comes in between. -/
def plain : Client DirectLocator Post := client [Baggage.interceptor "baggage."]

/-- A client that is busy with the changes while it takes up the baggage. -/
def busy : Client DirectLocator Post :=
  client [tracing, Baggage.interleaved (turn changes) "baggage.", Deadline.interceptor (pure 0)]

variable {thread : Contexts} {changes : List Change} {key : String}

theorem idles_turn : (turn changes : Run (Network L Post) Unit).Idles
    (observer.watch thread changes key) := by
  intro scene
  unfold turn
  split
  · exact .refl scene
  · next change hchange =>
    obtain ⟨hlt, rfl⟩ := List.getElem?_eq_some_iff.mp hchange
    exact { Watch.Passes.refl scene with
      later := Nat.le_succ _
      timely := fun htimely => by
        show Change.apply scene.contexts.forest _ = moment _ changes (_ + 1)
        rw [Context.moment_succ hlt, htimely]
        rfl }

theorem watched (interceptors : List (Interceptor (Network DirectLocator Post))) :
    (client interceptors).Watched (observer.watch thread changes key) where
  send node request scene :=
    ⟨scene.outside.world.done, {
      context := rfl
      kept := rfl
      later := Nat.le_refl _
      timely := id
      sent := rfl
      since := fun entry hentry => by rw [List.mem_singleton.mp hentry]; exact Nat.le_refl _ }⟩
  clock := Run.idles_pure 0
  stopwatch := Run.idles_pure 0

end Post

namespace Client

/-- The tenant changes before the context of the thread is read, and again after it. -/
theorem tenant_is_read_on_the_way :
    Post.busy.invoke Post.contexts Post.greeter Post.greeting.method none =
        (.started Post.call (some 0), Post.kept) ∧
      ∃ request, (Post.busy.run { forest := Post.kept.forest } Post.call
          (some 0)).2.2.network.world.sent = [(2, request)] ∧
        request.header.attributes["baggage.tenant"]? = some "late" ∧
        ∃ m ≤ 2, Shown (moment Post.kept.forest Post.changes) "baggage.tenant" [1, 0] m
          (some "late") := by
  have invoked : Post.busy.invoke Post.contexts Post.greeter Post.greeting.method none =
      (.started Post.call (some 0), Post.kept) := rfl
  have watched : Post.busy.Watched
      (Post.observer.watch Post.contexts Post.changes "baggage.tenant") := Post.watched _
  have bystanders : ∀ i ∈ [tracing] ++ [Deadline.interceptor Post.busy.clock],
      (Post.observer.watch Post.contexts Post.changes "baggage.tenant").Bystander i := by
    intro i hi
    rcases List.mem_cons.mp hi with rfl | hi
    · exact Watch.bystander_tracing
    · rw [List.mem_singleton.mp hi]
      exact Watch.bystander_deadline watched.clock (by decide) (by decide)
  have begun : ({ forest := Post.kept.forest } : Contexts).forest =
      moment Post.kept.forest Post.changes (Post.observer.done Post.busy.network.world) := rfl
  obtain ⟨log, hlog, hreads⟩ := baggage_is_read_on_the_way invoked watched Post.idles_turn rfl
    bystanders (by decide) (by decide) begun
  have hsent : (Post.busy.run { forest := Post.kept.forest } Post.call
      (some 0)).2.2.network.world.sent.map (fun (n, request) =>
        (n, request.header.attributes["baggage.tenant"]?)) = [(2, some "late")] := by
    decide +kernel
  obtain ⟨⟨n, request⟩, hsent, hrequest⟩ := List.map_eq_singleton_iff.mp hsent
  obtain ⟨rfl, htenant⟩ := Prod.mk.inj hrequest
  have hall : [(2, request)] = log := hsent.symm.trans hlog
  obtain ⟨hread, -⟩ := hreads 2 request (hall ▸ List.mem_singleton_self _)
  refine ⟨invoked, request, hsent, htenant, ?_⟩
  rwa [htenant] at hread

/-- **Baggage is not fixed when a call is made.** What the thread writes into its own context after
that goes with the request. -/
theorem baggage_is_not_fixed :
    let late : Forest := (Post.kept.forest.put 0 "baggage.tenant" "late").2
    Post.plain.invoke Post.contexts Post.greeter Post.greeting.method none =
        (.started Post.call (some 0), Post.kept) ∧
      Post.contexts.forest.get 0 "baggage.tenant" = some "acme" ∧
      (Post.plain.run { forest := Post.kept.forest } Post.call
        (some 0)).2.2.network.world.tenants = [some "acme"] ∧
      (Post.plain.run { forest := late } Post.call
        (some 0)).2.2.network.world.tenants = [some "late"] :=
  ⟨rfl, by decide +kernel, by decide +kernel, by decide +kernel⟩

end Client

end RemoteCall
