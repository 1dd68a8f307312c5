/-
On a fixed list of instances, connect retry leaves nobody out.

Every refusal takes one code away from what is eligible, along with all entries of the
list that have it. So a cycle of refusals comes to an end only when the budget is used
up or every code was tried, and then it has sent to as many codes as it could.

* `Cycle.Exhausted.length_eq` — how many sends a cycle of refusals made.
* `Story.TriesAll` — what this means for an access error, and for a call that gets none.
* `Unfolds.triesAll` — calls through a direct link try every code they can.
-/
import Mathlib.Data.Finset.Card
import RemoteCall.Proofs.Call.Exclusion
import RemoteCall.Proofs.Call.Verdict

namespace RemoteCall

variable {ω : Type} {s : Surroundings ω} {call : Invocation} {P Q : Scene ω → Prop}

/-! ## Cycles of refusals -/

/-- The codes of the instances in a group; entries of the list with the same code count once. -/
def groupCodes (group : Option String) (instances : List ServiceInstance) : Finset String :=
  ((instances.filter (inGroup group)).map (·.code)).toFinset

theorem mem_groupCodes {group : Option String} {instances : List ServiceInstance}
    {code : String} :
    code ∈ groupCodes group instances ↔
      ∃ i ∈ instances, inGroup group i = true ∧ i.code = code := by
  simp only [groupCodes, List.mem_toFinset, List.mem_map, List.mem_filter, and_assoc]

namespace Cycle.Exhausted

variable {c : Cycle ω} {budget : Nat} {codes : Finset String}

/-- Distinct codes out of `codes`, and all of them unless the budget was used up first: that is
as many as the budget or the codes allow. -/
theorem length_eq (h : c.Exhausted budget) (length_le : c.attempts.length ≤ budget)
    (nodup : c.codes.Nodup) (within : c.codes.toFinset ⊆ codes)
    (all : c.fruitless.isSome = true → codes ⊆ c.codes.toFinset) :
    c.attempts.length = min budget codes.card := by
  have hcard : c.codes.toFinset.card = c.attempts.length := by
    rw [List.toFinset_card_of_nodup nodup, Cycle.codes, List.length_map]
  have hle := Finset.card_le_card within
  rcases h.2 with hfruitless | hspent
  · have hge := Finset.card_le_card (all hfruitless)
    omega
  · omega

/-- If the budget is enough for all codes, then all were tried. -/
theorem codes_eq (h : c.Exhausted budget) (length_le : c.attempts.length ≤ budget)
    (nodup : c.codes.Nodup) (within : c.codes.toFinset ⊆ codes)
    (all : c.fruitless.isSome = true → codes ⊆ c.codes.toFinset) (enough : codes.card ≤ budget) :
    c.codes.toFinset = codes := by
  refine Finset.eq_of_subset_of_card_le within ?_
  rw [List.toFinset_card_of_nodup nodup, Cycle.codes, List.length_map,
    h.length_eq length_le nodup within all, Nat.min_eq_right enough]

end Cycle.Exhausted

/-! ## Calls -/

/-- No code that the budget is enough for is left out. -/
structure Story.TriesAll (budget : Nat) (codes : Finset String) (story : Story ω)
    (outcome : Outcome) : Prop where
  /-- Before an access error, the last cycle tried as many codes as it could, all in vain. -/
  access : ∀ provider service attempts cause,
    outcome = .error (.access provider service attempts cause) →
      ∃ c, story.getLast? = some c ∧ c.attempts.length = min budget codes.card ∧
        c.codes.toFinset.card = min budget codes.card ∧ c.codes.toFinset ⊆ codes ∧
        ∀ a ∈ c.attempts, a.refused = true
  /-- With a budget for all codes, there is no access error unless each of them refused. -/
  reachable : codes.card ≤ budget →
    (∃ code ∈ codes, ∀ a ∈ story.attempts, a.node.code = code → a.refused = false) →
      ∀ provider service attempts cause,
        outcome ≠ .error (.access provider service attempts cause)

/-- Of a fixed list, a cycle sends only to codes in the group, and it finds nothing only if it
has sent to all of them. -/
theorem Story.Excludes.codes_of_fixed {link : ω → Option DirectLocator}
    {instances : List ServiceInstance} {story : Story ω}
    (h : story.Excludes call fun outside =>
      (link outside).map (Sum.inl : _ → AnyLocator MemoryDiscovery))
    {c : Cycle ω} (hc : c ∈ story)
    (fixed : ∀ l ∈ c.lookups, (link l.scene.outside).map (·.instances) = some instances) :
    c.codes.toFinset ⊆ groupCodes call.service.group instances ∧
      (c.fruitless.isSome = true →
        groupCodes call.service.group instances ⊆ c.codes.toFinset) := by
  constructor
  · intro code hcode
    rw [List.mem_toFinset, Cycle.codes, List.mem_map] at hcode
    obtain ⟨a, ha, rfl⟩ := hcode
    have hlookup : a.lookup ∈ c.lookups := by simp [Cycle.lookups, List.mem_map_of_mem ha]
    obtain ⟨asked, hasked, hnode⟩ := h.picked c hc a ha
    obtain ⟨direct, hdirect, rfl⟩ := Option.map_eq_some_iff.mp hasked
    have hinstances := fixed a.lookup hlookup
    rw [hdirect, Option.map_some, Option.some.injEq] at hinstances
    obtain ⟨hmem, hgroup, -⟩ := AnyLocator.mem_eligible.mp hnode
    rw [← hinstances]
    exact mem_groupCodes.mpr ⟨a.node, hmem, hgroup, rfl⟩
  · intro hfruitless code hcode
    obtain ⟨l, hl⟩ := Option.isSome_iff_exists.mp hfruitless
    have hlookup : c.lookups[c.attempts.length]? = some l := by
      rw [Cycle.lookups, List.getElem?_append_right (by rw [List.length_map]), hl]
      simp
    obtain ⟨direct, hdirect, hinstances⟩ :=
      Option.map_eq_some_iff.mp (fixed l (List.mem_of_getElem? hlookup))
    have hasked : (link l.scene.outside).map (Sum.inl : _ → AnyLocator MemoryDiscovery) =
        some (.inl direct) := by rw [hdirect, Option.map_some]
    obtain ⟨i, hi, hgroup, rfl⟩ := mem_groupCodes.mp hcode
    have hnil := h.starved c hc l hl (.inl direct) hasked
    have hnot : i ∉ AnyLocator.eligible (.inl direct : AnyLocator MemoryDiscovery) call
        l.exclusions := by simp [hnil]
    rw [h.eligible c hc _ l hlookup (.inl direct) hasked, List.take_length] at hnot
    rw [List.mem_toFinset, Cycle.codes, List.mem_map]
    -- Otherwise the instance would still have been eligible to the look-up.
    by_contra htried
    refine hnot ⟨?_, hgroup, fun a ha hcode => htried ⟨a, ha, hcode⟩⟩
    show i ∈ direct.instances
    rwa [hinstances]

theorem Unfolds.triesAll {link : ω → Option DirectLocator} {instances : List ServiceInstance}
    (hP : s.Invariant call P) (hl : s.LocatesThrough link)
    (fixed : ∀ scene, P scene → (link scene.outside).map (·.instances) = some instances)
    {more : Nat} {story : Story ω} {outcome : Outcome}
    (h : Unfolds s call P more story outcome) :
    story.TriesAll call.method.connectRetry.toNat (groupCodes call.service.group instances)
      outcome := by
  have hregular := h.regular
  have hexcludes := h.excludes hP (β := MemoryDiscovery) hl.inl
  have hlast : ∀ provider service attempts cause,
      outcome = .error (.access provider service attempts cause) →
      ∃ c ∈ story, story.getLast? = some c ∧ c.Exhausted call.method.connectRetry.toNat := by
    intro provider service attempts cause ho
    obtain ⟨c, hc, hexhausted⟩ := h.decides.access.mp ⟨provider, service, attempts, cause, ho⟩
    exact ⟨c, List.mem_of_getLast? hc, hc, hexhausted⟩
  have hcodes : ∀ c ∈ story,
      c.codes.toFinset ⊆ groupCodes call.service.group instances ∧
        (c.fruitless.isSome = true →
          groupCodes call.service.group instances ⊆ c.codes.toFinset) :=
    fun c hc => hexcludes.codes_of_fixed hc fun l hl => fixed l.scene (h.lookup_of_mem c hc l hl)
  constructor
  · intro provider service attempts cause ho
    obtain ⟨c, hc, hlast, hexhausted⟩ := hlast provider service attempts cause ho
    obtain ⟨hwithin, hall⟩ := hcodes c hc
    have hnodup := hexcludes.nodup c hc
    have hlength := hexhausted.length_eq (hregular.cycle c hc).length_le hnodup hwithin hall
    refine ⟨c, hlast, hlength, ?_, hwithin, hexhausted.1⟩
    rw [List.toFinset_card_of_nodup hnodup, Cycle.codes, List.length_map, hlength]
  · rintro henough ⟨code, hcode, hreached⟩ provider service attempts cause ho
    obtain ⟨c, hc, -, hexhausted⟩ := hlast provider service attempts cause ho
    obtain ⟨hwithin, hall⟩ := hcodes c hc
    have heq := hexhausted.codes_eq (hregular.cycle c hc).length_le (hexcludes.nodup c hc)
      hwithin hall henough
    rw [← heq, List.mem_toFinset, Cycle.codes, List.mem_map] at hcode
    obtain ⟨a, ha, rfl⟩ := hcode
    have hrefused := hexhausted.1 a ha
    rw [hreached a (List.mem_flatMap.mpr ⟨c, hc, ha⟩) rfl] at hrefused
    cases hrefused

/-- **Connect retry is complete.** A call through a direct link that ends with an access error has
sent to as many different codes in its last cycle as its budget and the group allow, and all of
them refused. So if the budget is enough for the group, a call ends with an access error only if
every code of the group refused it. Where the balancer starts does not matter. -/
theorem failover_tries_every_code {link : ω → Option DirectLocator}
    {instances : List ServiceInstance} (hs : s.Orderly) (hl : s.LocatesThrough link)
    (hfixed : s.Maintains fun scene =>
      (link scene.outside).map (·.instances) = some instances)
    (scene : Scene ω) (hscene : (link scene.outside).map (·.instances) = some instances) :
    ∃ (outcome : Outcome) (after : Scene ω) (story : Story ω),
      s.failover scene = (.done outcome, after) ∧ s.record scene = story.events ∧
      story.Regular scene.invocation.method.connectRetry.toNat
        (max 1 scene.invocation.method.timeoutRetry.toNat) ∧
      story.TriesAll scene.invocation.method.connectRetry.toNat
        (groupCodes scene.invocation.service.group instances) outcome := by
  have hP := (hs.invariant scene.invocation).and_outside
    (Q := fun outside => (link outside).map (·.instances) = some instances) hfixed
  obtain ⟨story, outcome, after, hstory, hregular, hrun, hrecord⟩ :=
    failover_regular hP scene ⟨rfl, hscene⟩
  refine ⟨outcome, after, story, hrun, hrecord, hregular, ?_⟩
  rcases hstory with ⟨rfl, fault, rfl⟩ | hunfolds
  · exact ⟨by simp, by simp⟩
  · exact hunfolds.triesAll hP hl fun _ h => h.2

/-- A call through a link to two instances, the second of which answers if the first refuses. -/
theorem greeting_tries_every_code :
    let network := Script.linked [.error (.connect "refused"), .error (.other "no greeting")]
    let s := (Script.client network).surroundings (some 0)
    let scene := Script.greeting 2 1 network
    ∃ (outcome : Outcome) (after : Scene _) (story : Story _),
      s.failover scene = (.done outcome, after) ∧ s.record scene = story.events ∧
      story.Regular 2 1 ∧ story.TriesAll 2 (groupCodes none Script.greeters) outcome := by
  intro network s scene
  have hscene : (network.links[0]?).map (·.instances) = some Script.greeters := by rfl
  exact failover_tries_every_code (Script.orderly network (some 0))
    (Client.surroundings_link (Script.client network) 0)
    (Script.keeps_instances network 0 Script.greeters) scene hscene

end RemoteCall
