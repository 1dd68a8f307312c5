/-
What a locator picks: the spec lemmas of balancers, selectors and locators.

Which candidate a balancer prefers is left open here. What matters to the calls is
that a pick is one of the eligible instances (`AnyLocator.mem_eligible_of_locate`),
and that there is no pick only if none is eligible
(`AnyLocator.locate_eq_none_iff`). `AnyLocator.mem_eligible` says which instances
are eligible, in terms of their codes and the group of the service.

* `Balancer.chooses_select` — a balancer never divides by zero and never looks beyond the
  end of the candidates.
* `Selector.selects_what_suits` — the group router in front of any balancer: a pick is a
  candidate that suits the call, and there is none only if none suits.
-/
import RemoteCall.Locator.Basic

namespace RemoteCall

/-! ## Balancers -/

namespace Balancer

variable {b : Balancer} {name : String} {candidates : List ServiceInstance}

/-- Some candidate stands at the place that a pick among two or more comes to. -/
theorem pick_isSome (b : Balancer) (name : String) (h : candidates ≠ []) :
    (b.pick name candidates).1.isSome = true := by
  have hpos : 0 < candidates.length := List.length_pos_iff.mpr h
  have hplace := Nat.mod_lt (b.number (name, candidates)) hpos
  simp [pick, hplace]

theorem select_eq_none_iff : (b.select name candidates).1 = none ↔ candidates = [] := by
  cases candidates with
  | nil => simp [select]
  | cons first rest =>
    cases rest with
    | nil => simp [select]
    | cons second rest =>
      have hsome := b.pick_isSome name (List.cons_ne_nil first (second :: rest))
      rw [Option.isSome_iff_ne_none] at hsome
      simpa [select] using hsome

theorem mem_of_select {i : ServiceInstance} (h : (b.select name candidates).1 = some i) :
    i ∈ candidates := by
  cases candidates with
  | nil => simp [select] at h
  | cons first rest =>
    cases rest with
    | nil =>
      obtain rfl : first = i := by simpa [select] using h
      exact List.mem_singleton_self first
    | cons second rest => exact List.mem_of_getElem? h

/-- How a balancer chooses, with every number that it works with in range: the remainder is one by
a number of candidates that is not zero, and there is a candidate at the place it comes to. -/
inductive Chooses (b : Balancer) (name : String) :
    List ServiceInstance → Option ServiceInstance → Balancer → Prop where
  /-- Nothing is chosen of nothing, and the balancer stays as it is. -/
  | nothing : Chooses b name [] none b
  /-- A single candidate is no choice either. -/
  | only (i : ServiceInstance) : Chooses b name [i] (some i) b
  | among {candidates : List ServiceInstance} {place : Nat} (two : 2 ≤ candidates.length)
      (remainder : place = b.number (name, candidates) % candidates.length)
      (inRange : place < candidates.length) :
      Chooses b name candidates (some candidates[place]) (b.advance (name, candidates))

theorem chooses_select (b : Balancer) (name : String) (candidates : List ServiceInstance) :
    b.Chooses name candidates (b.select name candidates).1 (b.select name candidates).2 := by
  match candidates with
  | [] => exact .nothing
  | [i] => exact .only i
  | first :: second :: rest =>
    have two : 2 ≤ (first :: second :: rest).length := Nat.le_add_left 2 rest.length
    have inRange := Nat.mod_lt (b.number (name, first :: second :: rest))
      (Nat.lt_of_lt_of_le Nat.two_pos two)
    have hpick : b.select name (first :: second :: rest) = b.pick name (first :: second :: rest) :=
      rfl
    rw [hpick, pick, List.getElem?_eq_getElem inRange]
    exact .among two rfl inRange

/-- A draw can come to any candidate. -/
theorem exists_draws {i : ServiceInstance} (name : String) (h : i ∈ candidates) :
    ∃ draws, ((random draws).select name candidates).1 = some i := by
  obtain ⟨place, inRange, rfl⟩ := List.mem_iff_getElem.mp h
  refine ⟨fun _ => place, ?_⟩
  match candidates, inRange with
  | [only], inRange =>
    obtain rfl : place = 0 := Nat.lt_one_iff.mp inRange
    rfl
  | first :: second :: rest, inRange =>
    show (first :: second :: rest)[place % (first :: second :: rest).length]? = _
    rw [Nat.mod_eq_of_lt inRange, List.getElem?_eq_getElem inRange]

end Balancer

/-! ## Exclusion and routing -/

theorem mem_exclude {candidates exclusions : List ServiceInstance} {i : ServiceInstance} :
    i ∈ exclude candidates exclusions ↔ i ∈ candidates ∧ ∀ j ∈ exclusions, j.code ≠ i.code := by
  simp only [exclude, List.mem_filter, Bool.not_eq_true', List.any_eq_false, ServiceInstance.same,
    beq_iff_eq]
  exact and_congr_right fun _ => forall₂_congr fun _ _ => ne_comm

theorem mem_groupRouter {invocation : Invocation} {candidates : List ServiceInstance}
    {i : ServiceInstance} :
    i ∈ groupRouter invocation candidates ↔
      i ∈ candidates ∧ inGroup invocation.service.group i = true := by
  rw [groupRouter, List.mem_filter]

theorem inGroup_iff {group : Option String} {i : ServiceInstance} :
    inGroup group i = true ↔ ∀ g, group = some g → i.metadata[groupKey]? = some g := by
  cases group with
  | none => simp [inGroup]
  | some g => simp [inGroup]

/-! ## Selectors -/

/-- The instance is good for the call: no excluded one has its code, and it is tagged with exactly
the group of the service, if the service has one. -/
structure ServiceInstance.Suits (i : ServiceInstance) (invocation : Invocation)
    (exclusions : List ServiceInstance) : Prop where
  free : ∀ j ∈ exclusions, j.code ≠ i.code
  grouped : ∀ g, invocation.service.group = some g → i.metadata[groupKey]? = some g

namespace Selector

variable {b : Balancer} {invocation : Invocation} {candidates exclusions : List ServiceInstance}

theorem mem_eligible {i : ServiceInstance} :
    i ∈ (ofBalancer b).eligible invocation candidates exclusions ↔
      i ∈ candidates ∧ i.Suits invocation exclusions := by
  show i ∈ groupRouter invocation (exclude candidates exclusions) ↔ _
  rw [mem_groupRouter, mem_exclude, inGroup_iff, and_assoc, and_congr_right_iff]
  exact fun _ => ⟨fun ⟨free, grouped⟩ => ⟨free, grouped⟩, fun suits => ⟨suits.free, suits.grouped⟩⟩

theorem select_ofBalancer :
    (ofBalancer b).select invocation candidates exclusions =
      let chosen := b.select invocation.targetName
        ((ofBalancer b).eligible invocation candidates exclusions)
      (chosen.1, ofBalancer chosen.2) := rfl

/-- **A selector picks what suits the call**, whatever its counters are and whatever is drawn. The
pick is one of the candidates as it stands in the list, and there is none only if no candidate
suits. No number that the balancer works with is out of range. Where the pick is drawn, each
candidate that suits can be the one. -/
theorem selects_what_suits (b : Balancer) (invocation : Invocation)
    (candidates exclusions : List ServiceInstance) :
    ∃ picked after, (ofBalancer b).select invocation candidates exclusions =
        (picked, ofBalancer after) ∧
      (picked = none ↔ ∀ i ∈ candidates, ¬i.Suits invocation exclusions) ∧
      (∀ i, picked = some i → i ∈ candidates ∧ i.Suits invocation exclusions) ∧
      b.Chooses invocation.targetName
        ((ofBalancer b).eligible invocation candidates exclusions) picked after ∧
      ∀ i ∈ candidates, i.Suits invocation exclusions → ∃ draws,
        ((ofBalancer (.random draws)).select invocation candidates exclusions).1 = some i := by
  refine ⟨_, _, select_ofBalancer, ?_, fun i hi => mem_eligible.mp (Balancer.mem_of_select hi),
    b.chooses_select _ _, fun i hi suits => ?_⟩
  · rw [Balancer.select_eq_none_iff, List.eq_nil_iff_forall_not_mem]
    simp only [mem_eligible, not_and]
  · exact Balancer.exists_draws _ (mem_eligible (b := b).mpr ⟨hi, suits⟩)

/-- A call of a service that was imported with a group. -/
def blueCall : Invocation :=
  let codec := CodecOptions.plain .json
  let service : Service :=
    { name := "greeter", client := {}, reference := { group := some "blue" }, codec := codec,
      connectRetry := 1, timeoutRetry := 1, methods := ∅ }
  let method : MethodConfig :=
    { name := "greet", param := none, returns := .value, async := false, timeoutMillis := 250,
      timeoutRetry := 1, connectRetry := 1, codec := codec }
  .ofMethod service method none none

/-- An instance that is tagged with a group. -/
def greeterIn (group code host : String) : ServiceInstance :=
  ((ServiceInstance.ofHostPort "greeter" host 80).withCode code).withMetadata groupKey group

/-- The excluded code stands twice in the list, once at another address, and one instance is of
another group. -/
theorem last_blue_greeter_is_selected :
    let left := greeterIn "blue" "n1" "left"
    let right := greeterIn "blue" "n2" "right"
    ((ofBalancer .fresh).select blueCall
      [left, greeterIn "green" "n3" "other", greeterIn "blue" "n1" "moved", right] [left]).1 =
        some right := by
  intro left right
  have hgroup (group code host : String) :
      (greeterIn group code host).metadata[groupKey]? = some group :=
    Std.ExtTreeMap.getElem?_insert_self
  have suits : right.Suits blueCall [left] := by
    refine ⟨fun j hj => ?_, ?_⟩
    · rw [List.mem_singleton.mp hj]
      show "n1" ≠ "n2"
      decide
    · rintro _ ⟨⟩
      exact hgroup ..
  obtain ⟨picked, after, hselect, hnone, hsome, -⟩ := selects_what_suits .fresh blueCall
    [left, greeterIn "green" "n3" "other", greeterIn "blue" "n1" "moved", right] [left]
  rw [hselect]
  cases hpicked : picked with
  | none => exact absurd suits (hnone.mp hpicked right (by simp))
  | some i =>
    obtain ⟨hmem, free, grouped⟩ := hsome i hpicked
    simp only [List.mem_cons, List.not_mem_nil, or_false] at hmem
    rcases hmem with rfl | rfl | rfl | rfl
    · exact absurd rfl (free left (List.mem_singleton_self left))
    · have hblue := (hgroup ..).symm.trans (grouped "blue" rfl)
      simp at hblue
    · exact absurd rfl (free left (List.mem_singleton_self left))
    · rfl

end Selector

/-! ## Locators -/

namespace RegistryLocator

variable {β : Type} [Discovery β]

/-- The instances among which the locator selects for a call: what it knows of the provider
once it is subscribed. -/
def candidates (l : RegistryLocator β) (invocation : Invocation) : List ServiceInstance :=
  match l.subscribe invocation.targetName with
  | (.error _, _) => []
  | (.ok (), l) => l.subscriptions.snapshot invocation.targetName

end RegistryLocator

/-- A direct link or a registry locator. -/
abbrev AnyLocator (β : Type) := DirectLocator ⊕ RegistryLocator β

namespace AnyLocator

variable {β : Type} [Discovery β]

/-- The instances among which the locator selects for a call, wherever it has them from. -/
def candidates (locator : AnyLocator β) (invocation : Invocation) : List ServiceInstance :=
  match locator with
  | .inl direct => direct.instances
  | .inr registry => registry.candidates invocation

/-- The candidates that are left for a call. -/
def eligible (locator : AnyLocator β) (invocation : Invocation)
    (exclusions : List ServiceInstance) : List ServiceInstance :=
  groupRouter invocation (exclude (locator.candidates invocation) exclusions)

variable {locator : AnyLocator β} {invocation : Invocation} {exclusions : List ServiceInstance}

/-- **Eligible** is every candidate of the service's group that no excluded instance shares its
code with. Neither its place in the list nor its address matters. -/
theorem mem_eligible {i : ServiceInstance} :
    i ∈ locator.eligible invocation exclusions ↔
      i ∈ locator.candidates invocation ∧ inGroup invocation.service.group i = true ∧
        ∀ j ∈ exclusions, j.code ≠ i.code := by
  rw [eligible, mem_groupRouter, mem_exclude, and_assoc, and_congr_right_iff]
  exact fun _ => and_comm

/-- A pick is what some balancer selects among the eligible instances, or there is none because
nothing is eligible. -/
theorem locate_eq_select (locator : AnyLocator β) (invocation : Invocation)
    (exclusions : List ServiceInstance) :
    ∃ b : Balancer, (Locator.locate locator invocation exclusions).1 =
      (b.select invocation.targetName (locator.eligible invocation exclusions)).1 := by
  cases locator with
  | inl direct => exact ⟨direct.balancer, rfl⟩
  | inr registry =>
    show ∃ b : Balancer, (registry.locate invocation exclusions).1 = _
    unfold RegistryLocator.locate eligible candidates RegistryLocator.candidates
    cases hs : registry.subscribe invocation.targetName with
    | mk answer subscribed =>
      cases answer with
      | error e => exact ⟨.fresh, by simp [hs, exclude, groupRouter, Balancer.select]⟩
      | ok u => exact ⟨subscribed.balancer, by simp only [hs]; rfl⟩

theorem locate_eq_none_iff :
    (Locator.locate locator invocation exclusions).1 = none ↔
      locator.eligible invocation exclusions = [] := by
  obtain ⟨b, h⟩ := locate_eq_select locator invocation exclusions
  rw [h, Balancer.select_eq_none_iff]

theorem mem_eligible_of_locate {i : ServiceInstance}
    (h : (Locator.locate locator invocation exclusions).1 = some i) :
    i ∈ locator.eligible invocation exclusions := by
  obtain ⟨b, hb⟩ := locate_eq_select locator invocation exclusions
  rw [hb] at h
  exact Balancer.mem_of_select h

/-- Of the call only the names of its service matter. -/
theorem candidates_congr {i j : Invocation} (h : i.service = j.service) :
    locator.candidates i = locator.candidates j := by
  have hname : i.targetName = j.targetName := by rw [Invocation.targetName, h]; rfl
  cases locator with
  | inl direct => rfl
  | inr registry => simp only [candidates, RegistryLocator.candidates, hname]

theorem eligible_congr {i j : Invocation} (h : i.service = j.service) :
    locator.eligible i exclusions = locator.eligible j exclusions := by
  rw [eligible, eligible, candidates_congr h, groupRouter, groupRouter, h]

end AnyLocator

end RemoteCall
