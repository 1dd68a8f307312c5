/-
Which instances a call leaves out.

* `Cycle.nodup_codes` — if look-ups never find what they leave out, then no code is
  sent to twice in a cycle.
* `Story.Excludes` — what the look-ups of a call leave out, in terms of the locator
  that they ask, which may be another one every time.
* `Unfolds.excludes` — a call through a direct link or a registry locator leaves out
  the instances that refused in the same cycle, and no others.
-/
import RemoteCall.Proofs.Call.Budgets

namespace RemoteCall

variable {ω β : Type} {s : Surroundings ω} {call : Invocation} {P : Scene ω → Prop}

/-! ## Look-ups through a locator -/

namespace Surroundings.LocatesThrough

variable [Discovery β] {locator : ω → Option (AnyLocator β)} {l : Lookup ω}

/-- What a look-up finds is eligible to the locator that it asks. -/
theorem mem_eligible (hl : s.LocatesThrough locator) {node : ServiceInstance}
    (h : (s.locate l.exclusions l.scene).1 = .done (some node)) :
    ∃ asked, locator l.scene.outside = some asked ∧
      node ∈ asked.eligible l.scene.invocation l.exclusions := by
  rw [hl, Ending.done.injEq, Option.bind_eq_some_iff] at h
  obtain ⟨asked, hasked, hnode⟩ := h
  exact ⟨asked, hasked, AnyLocator.mem_eligible_of_locate hnode⟩

/-- A look-up that finds nothing asks a locator to which nothing is eligible. -/
theorem eligible_eq_nil (hl : s.LocatesThrough locator)
    (h : (s.locate l.exclusions l.scene).1 = .done none) {asked : AnyLocator β}
    (hasked : locator l.scene.outside = some asked) :
    asked.eligible l.scene.invocation l.exclusions = [] := by
  rw [hl, hasked, Option.bind_some, Ending.done.injEq] at h
  exact AnyLocator.locate_eq_none_iff.mp h

end Surroundings.LocatesThrough

/-! ## Cycles -/

/-- What a look-up leaves out grows with every send of the cycle, so a code that has been sent
to never comes up again. -/
theorem Cycle.nodup_codes {c : Cycle ω} {budget : Nat} (h : c.Regular budget)
    (fresh : ∀ a ∈ c.attempts, ∀ i ∈ a.lookup.exclusions, i.code ≠ a.node.code) :
    c.codes.Nodup := by
  rw [Cycle.codes, List.Nodup, List.pairwise_map, List.pairwise_iff_getElem]
  intro j k hj hk hjk
  -- The look-up for the later of two attempts left out the instance of the earlier one.
  have hlookup : c.lookups[k]? = some c.attempts[k].lookup := by
    rw [Cycle.lookups, List.getElem?_append_left (by rwa [List.length_map]), List.getElem?_map,
      List.getElem?_eq_getElem hk, Option.map_some]
  have hmem : c.attempts[j].node ∈ c.attempts[k].lookup.exclusions := by
    rw [h.exclusions_eq_take hlookup]
    exact List.mem_map_of_mem (List.mem_take_iff_getElem.mpr ⟨j, by omega, rfl⟩)
  exact fresh _ (List.getElem_mem hk) _ hmem

/-! ## Calls -/

/-- The look-ups of a call leave out what they should. `locator` is the locator that a look-up
asks, with the candidates that it has by then. -/
structure Story.Excludes [Discovery β] (call : Invocation) (locator : ω → Option (AnyLocator β))
    (story : Story ω) : Prop where
  /-- No code is sent to twice in a cycle. -/
  nodup : ∀ c ∈ story, c.codes.Nodup
  /-- What is sent to was eligible. -/
  picked : ∀ c ∈ story, ∀ a ∈ c.attempts, ∃ asked, locator a.lookup.scene.outside = some asked ∧
    a.node ∈ asked.eligible call a.lookup.exclusions
  /-- Nothing is found only if nothing is eligible. -/
  starved : ∀ c ∈ story, ∀ l, c.fruitless = some l → ∀ asked,
    locator l.scene.outside = some asked → asked.eligible call l.exclusions = []
  /-- Eligible is every candidate of the group whose code was not sent to in the same cycle. -/
  eligible : ∀ c ∈ story, ∀ k l, c.lookups[k]? = some l → ∀ asked,
    locator l.scene.outside = some asked → ∀ i,
      i ∈ asked.eligible call l.exclusions ↔
        i ∈ asked.candidates call ∧ inGroup call.service.group i = true ∧
          ∀ a ∈ c.attempts.take k, a.node.code ≠ i.code
  /-- What was sent to in earlier cycles is eligible again when a cycle begins. -/
  again : ∀ earlier c later, story = earlier ++ c :: later → ∀ l, c.lookups.head? = some l →
    ∀ asked, locator l.scene.outside = some asked → ∀ a ∈ Story.attempts earlier,
      ∀ i ∈ asked.candidates call, inGroup call.service.group i = true →
        i.code = a.node.code → i ∈ asked.eligible call l.exclusions

/-- Which invocation a look-up sees does not matter for what is eligible to it. -/
theorem eligible_of_asMade [Discovery β] {i j : Invocation} (h : i.asMade = j.asMade)
    (asked : AnyLocator β) (exclusions : List ServiceInstance) :
    asked.eligible i exclusions = asked.eligible j exclusions :=
  AnyLocator.eligible_congr (Invocation.service_of_asMade h)

theorem Story.Regular.excludes [Discovery β] {locator : ω → Option (AnyLocator β)}
    {connectRetry cycles : Nat} {story : Story ω} (h : story.Regular connectRetry cycles)
    (picked : ∀ c ∈ story, ∀ a ∈ c.attempts, ∃ asked,
      locator a.lookup.scene.outside = some asked ∧
        a.node ∈ asked.eligible call a.lookup.exclusions)
    (starved : ∀ c ∈ story, ∀ l, c.fruitless = some l → ∀ asked,
      locator l.scene.outside = some asked → asked.eligible call l.exclusions = []) :
    story.Excludes call locator := by
  have heligible : ∀ c ∈ story, ∀ k l, c.lookups[k]? = some l → ∀ asked : AnyLocator β, ∀ i,
      i ∈ asked.eligible call l.exclusions ↔
        i ∈ asked.candidates call ∧ inGroup call.service.group i = true ∧
          ∀ a ∈ c.attempts.take k, a.node.code ≠ i.code := by
    intro c hc k l hl asked i
    rw [AnyLocator.mem_eligible, (h.cycle c hc).exclusions_eq_take hl, List.forall_mem_map]
  refine ⟨fun c hc => ?_, picked, starved, fun c hc k l hl asked _ i => ?_, ?_⟩
  · refine Cycle.nodup_codes (h.cycle c hc) fun a ha i hi => ?_
    obtain ⟨asked, -, hnode⟩ := picked c hc a ha
    exact (AnyLocator.mem_eligible.mp hnode).2.2 i hi
  · exact heligible c hc k l hl asked i
  · intro earlier c later hstory l hl asked _ a _ i hi hgroup _
    rw [List.head?_eq_getElem?] at hl
    have hc : c ∈ story := by simp [hstory]
    exact (heligible c hc 0 l hl asked i).mpr ⟨hi, hgroup, by simp⟩

theorem Unfolds.excludes [Discovery β] {locator : ω → Option (AnyLocator β)}
    (hP : s.Invariant call P) (hl : s.LocatesThrough locator) {more : Nat} {story : Story ω}
    {outcome : Outcome} (h : Unfolds s call P more story outcome) :
    story.Excludes call locator := by
  refine h.regular.excludes (fun c hc a ha => ?_) (fun c hc l hfruitless asked hasked => ?_)
  · obtain ⟨o, request, htries⟩ := h.tried_of_mem c hc
    have hgenuine := htries.genuine_of_mem a ha
    obtain ⟨asked, hasked, hnode⟩ := hl.mem_eligible hgenuine.located
    rw [eligible_of_asMade (hP.asMade _ hgenuine.lookup)] at hnode
    exact ⟨asked, hasked, hnode⟩
  · obtain ⟨o, request, htries⟩ := h.tried_of_mem c hc
    obtain ⟨hscene, hlocated⟩ := htries.located_of_fruitless l hfruitless
    have hnil := hl.eligible_eq_nil hlocated hasked
    rwa [eligible_of_asMade (hP.asMade _ hscene)] at hnil

/-- **Exclusion is by code, and for one cycle.** In a call through a direct link or a registry
locator, whatever list of candidates each look-up finds, the codes that are sent to in one cycle
are distinct. An instance that refused is not eligible for the rest of the cycle, even if it is
the only one left or is listed under another address by now; in the next cycle it is eligible
again. -/
theorem failover_excludes_refused [Discovery β] {locator : ω → Option (AnyLocator β)}
    (hs : s.Orderly) (hl : s.LocatesThrough locator) (scene : Scene ω) :
    ∃ (outcome : Outcome) (after : Scene ω) (story : Story ω),
      s.failover scene = (.done outcome, after) ∧ s.record scene = story.events ∧
      story.Regular scene.invocation.method.connectRetry.toNat
        (max 1 scene.invocation.method.timeoutRetry.toNat) ∧
      story.Excludes scene.invocation locator := by
  have hP := hs.invariant scene.invocation
  obtain ⟨story, outcome, after, hstory, hregular, hrun, hrecord⟩ :=
    failover_regular hP scene rfl
  refine ⟨outcome, after, story, hrun, hrecord, hregular, ?_⟩
  rcases hstory with ⟨rfl, -⟩ | hunfolds
  · exact hregular.excludes (by simp) (by simp)
  · exact hunfolds.excludes hP hl

/-- A call of two cycles through a registry that knows two instances: one refuses, the other
comes too late, and then either may be asked again. -/
theorem greeting_excludes_refused :
    let network := Script.registered [.error (.connect "refused"), .error (.timeout "too late")]
    let s := (Script.client network).surroundings none
    let scene := Script.greeting 2 2 network
    ∃ (outcome : Outcome) (after : Scene _) (story : Story _),
      s.failover scene = (.done outcome, after) ∧ s.record scene = story.events ∧
      story.Regular 2 2 ∧ story.Excludes scene.invocation fun network =>
        network.shared.map (Sum.inr : _ → AnyLocator MemoryDiscovery) := by
  intro network s scene
  exact failover_excludes_refused (Script.orderly network none)
    (Client.surroundings_shared (Script.client network)).inr scene

end RemoteCall
