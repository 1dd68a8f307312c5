/-
What a registry holds, told from its history.

A registry keeps a list of entries for each service, and three operations change it. What it lists
can be told without that list: look at every registration in the history, and at what was done
after it. A later registration of the same code, or its removal, puts it out of force; what was said
last about its health decides whether it is listed.

* `MemoryDiscovery.Stands` — a registration is still in force after later operations.
* `MemoryDiscovery.entries_run` — the entries of a service are the registrations that stand.
* `MemoryDiscovery.registry_lists_what_stands` — what holds of a registry after any operations.
-/
import Mathlib.Data.List.Induction
import RemoteCall.Locator.Discovery

namespace RemoteCall.MemoryDiscovery

/-! ## Histories -/

/-- What is done to a registry. -/
inductive Operation where
  | register (node : ServiceInstance)
  | unregister (service code : String)
  | setHealthy (service code : String) (healthy : Bool)

namespace Operation

def apply (d : MemoryDiscovery) : Operation → MemoryDiscovery
  | register node => d.register node
  | unregister service code => (d.unregister service code).2
  | setHealthy service code healthy => d.setHealthy service code healthy

/-- The service that an operation is about. -/
def service : Operation → String
  | register node => node.service
  | unregister service _ | setHealthy service _ _ => service

/-- An operation puts the registration of a code under a service out of force. -/
def ends (service code : String) : Operation → Bool
  | register node => service == node.service && code == node.code
  | unregister of other => service == of && code == other
  | setHealthy .. => false

/-- What an operation says about the health of a code under a service. -/
def health? (service code : String) : Operation → Option Bool
  | setHealthy of other healthy => if service = of ∧ code = other then some healthy else none
  | _ => none

end Operation

/-- The registry after operations. -/
def run (operations : List Operation) : MemoryDiscovery :=
  operations.foldl Operation.apply ∅

/-- Nothing that was done `later` puts the registration of an instance out of force. -/
def Stands (node : ServiceInstance) (later : List Operation) : Prop :=
  ∀ operation ∈ later, operation.ends node.service node.code = false

instance (node : ServiceInstance) (later : List Operation) : Decidable (Stands node later) :=
  inferInstanceAs (Decidable (∀ _ ∈ later, _))

/-- What was said last about the health of an instance, if anything was. -/
def lastHealth? (node : ServiceInstance) (later : List Operation) : Option Bool :=
  (later.filterMap (·.health? node.service node.code)).getLast?

/-- The registrations under a service that stand, in their order, with the health of the
instances. -/
def standing (service : String) : List Operation → List DiscoveryEntry
  | [] => []
  | .register node :: later =>
    if service = node.service ∧ Stands node later then
      { node := node, healthy := (lastHealth? node later).getD true } :: standing service later
    else standing service later
  | _ :: later => standing service later

/-- The instances of a service whose registrations stand and of which it was not said last that
they are not healthy, in the order of these registrations. -/
def listed (service : String) : List Operation → List ServiceInstance
  | [] => []
  | .register node :: later =>
    if service = node.service ∧ Stands node later ∧ lastHealth? node later ≠ some false then
      node :: listed service later
    else listed service later
  | _ :: later => listed service later

/-- The codes under which instances of a service are registered. -/
def codes (d : MemoryDiscovery) (service : String) : List String :=
  (d.entries service).map (·.node.code)

variable {service code : String} {node : ServiceInstance} {later operations : List Operation}
  {operation : Operation}

/-! ## One operation -/

theorem entries_insert (d : MemoryDiscovery) (of service : String) (those : List DiscoveryEntry) :
    entries (d.insert of those) service = if service = of then those else d.entries service := by
  unfold entries
  rw [Table.getElem?_insert_eq]
  split <;> rfl

theorem entries_of_none {d : MemoryDiscovery} (h : d[service]? = none) :
    d.entries service = [] := by
  rw [entries, h]
  rfl

theorem entries_of_some {d : MemoryDiscovery} {those : List DiscoveryEntry}
    (h : d[service]? = some those) : d.entries service = those := by
  rw [entries, h]
  rfl

/-- Changes the entries of a service that has any. -/
def amend (d : MemoryDiscovery) (of : String) (change : List DiscoveryEntry → List DiscoveryEntry) :
    MemoryDiscovery :=
  match d[of]? with
  | none => d
  | some those => d.insert of (change those)

theorem unregister_eq_amend (d : MemoryDiscovery) (of code : String) :
    (d.unregister of code).2 = d.amend of (·.filter fun e => e.node.code != code) := by
  rw [unregister, amend]
  cases d[of]? <;> rfl

theorem setHealthy_eq_amend (d : MemoryDiscovery) (of code : String) (healthy : Bool) :
    d.setHealthy of code healthy =
      d.amend of (·.map fun e => if e.node.code = code then { e with healthy := healthy } else e) :=
  rfl

theorem entries_amend (d : MemoryDiscovery) (of service : String)
    {change : List DiscoveryEntry → List DiscoveryEntry} (nothing : change [] = []) :
    (d.amend of change).entries service =
      if service = of then change (d.entries service) else d.entries service := by
  rw [amend]
  split
  · next hof =>
    split
    · next h => rw [h, entries_of_none hof, nothing]
    · rfl
  · next those hof =>
    rw [entries_insert, ← entries_of_some hof]
    split
    · next h => rw [h]
    · rfl

/-- A change to nothing else leaves the registry as it is. -/
theorem amend_eq_self {d : MemoryDiscovery} {of : String}
    {change : List DiscoveryEntry → List DiscoveryEntry}
    (same : change (d.entries of) = d.entries of) : d.amend of change = d := by
  rw [amend]
  split
  · rfl
  · next those hof =>
    rw [entries_of_some hof] at same
    refine Std.ExtTreeMap.ext_getElem? fun key => ?_
    rw [Table.getElem?_insert_eq, same]
    split
    · next heq => rw [heq, hof]
    · rfl

namespace Operation

/-- What an operation makes of the entries of a service. -/
def effect (service : String) (entries : List DiscoveryEntry) : Operation → List DiscoveryEntry
  | register node =>
    if service = node.service then
      (entries.filter fun e => e.node.code != node.code) ++ [{ node := node, healthy := true }]
    else entries
  | unregister of code =>
    if service = of then entries.filter fun e => e.node.code != code else entries
  | setHealthy of code healthy =>
    if service = of then
      entries.map fun e => if e.node.code = code then { e with healthy := healthy } else e
    else entries

/-- An operation has its effect on the service that it is about, and none on the others. -/
theorem entries_apply (d : MemoryDiscovery) (operation : Operation) (service : String) :
    (operation.apply d).entries service = operation.effect service (d.entries service) := by
  cases operation with
  | register node =>
    rw [apply, MemoryDiscovery.register, entries_insert, effect]
    split
    · next h => subst h; rfl
    · rfl
  | unregister of code =>
    rw [apply, unregister_eq_amend]
    exact entries_amend d of service rfl
  | setHealthy of code healthy => exact entries_amend d of service rfl

/-- An operation takes an entry away, or it leaves it with what it says about its health. -/
theorem effect_cons (e : DiscoveryEntry) (rest : List DiscoveryEntry) (operation : Operation) :
    operation.effect e.node.service (e :: rest) =
      if operation.ends e.node.service e.node.code then operation.effect e.node.service rest
      else { e with healthy := (operation.health? e.node.service e.node.code).getD e.healthy } ::
        operation.effect e.node.service rest := by
  cases operation with
  | register node =>
    by_cases hservice : e.node.service = node.service
    · by_cases hcode : e.node.code = node.code <;> simp [effect, ends, health?, hservice, hcode]
    · simp [effect, ends, health?, hservice]
  | unregister of code =>
    by_cases hservice : e.node.service = of
    · by_cases hcode : e.node.code = code <;> simp [effect, ends, health?, hservice, hcode]
    · simp [effect, ends, health?, hservice]
  | setHealthy of code healthy =>
    by_cases hservice : e.node.service = of
    · by_cases hcode : e.node.code = code <;> simp [effect, ends, health?, hservice, hcode]
    · simp [effect, ends, health?, hservice]

theorem effect_of_ne (operation : Operation) (h : service ≠ operation.service)
    (entries : List DiscoveryEntry) : operation.effect service entries = entries := by
  cases operation <;> exact if_neg h

end Operation

/-! ## All operations -/

theorem stands_append : Stands node (later ++ [operation]) ↔
    Stands node later ∧ operation.ends node.service node.code = false := by
  simp only [Stands, List.mem_append, List.mem_singleton, or_imp, forall_and, forall_eq]

theorem lastHealth?_append : lastHealth? node (later ++ [operation]) =
    (operation.health? node.service node.code).or (lastHealth? node later) := by
  rw [lastHealth?, List.filterMap_append, List.getLast?_append, lastHealth?]
  cases h : operation.health? node.service node.code <;> simp [h]

/-- One more operation has its effect on what stands. -/
theorem standing_append (service : String) (operations : List Operation) (operation : Operation) :
    standing service (operations ++ [operation]) =
      operation.effect service (standing service operations) := by
  induction operations with
  | nil =>
    cases operation with
    | register node =>
      by_cases hservice : service = node.service <;>
        simp [standing, Operation.effect, Stands, lastHealth?, hservice]
    | unregister => simp [standing, Operation.effect]
    | setHealthy => simp [standing, Operation.effect]
  | cons first operations ih =>
    cases first with
    | unregister => exact ih
    | setHealthy => exact ih
    | register node =>
      rw [List.cons_append, standing, standing, ih]
      by_cases hservice : service = node.service
      · subst hservice
        by_cases hstands : Stands node operations
        · have hboth : node.service = node.service ∧ Stands node operations := ⟨rfl, hstands⟩
          rw [if_pos hboth, Operation.effect_cons { node := node, healthy := _ }]
          dsimp only
          by_cases hends : operation.ends node.service node.code
          · rw [if_pos hends, if_neg fun h => ?_]
            rw [(stands_append.mp h.2).2] at hends
            cases hends
          · rw [if_neg hends, if_pos ⟨rfl, stands_append.mpr ⟨hstands, by simpa using hends⟩⟩,
              lastHealth?_append]
            cases operation.health? node.service node.code <;> rfl
        · rw [if_neg fun h => hstands (stands_append.mp h.2).1, if_neg fun h => hstands h.2]
      · rw [if_neg fun h => hservice h.1, if_neg fun h => hservice h.1]

/-- **The entries of a service are the registrations that stand.** -/
theorem entries_run (service : String) (operations : List Operation) :
    (run operations).entries service = standing service operations := by
  induction operations using List.reverseRecOn with
  | nil => exact entries_of_none Std.ExtTreeMap.getElem?_empty
  | append_singleton operations operation ih =>
    rw [run, List.foldl_append, List.foldl_cons, List.foldl_nil, Operation.entries_apply,
      standing_append, ← ih, run]

/-! ## What stands -/

theorem mem_standing_cons {e : DiscoveryEntry} {first : Operation} :
    e ∈ standing service (first :: operations) ↔
      (first = .register e.node ∧ service = e.node.service ∧ Stands e.node operations ∧
        e.healthy = (lastHealth? e.node operations).getD true) ∨
      e ∈ standing service operations := by
  cases first with
  | unregister => simp [standing]
  | setHealthy => simp [standing]
  | register node =>
    rw [standing]
    constructor
    · intro h
      split at h
      · next hnow =>
        rcases List.mem_cons.mp h with rfl | h
        · exact .inl ⟨rfl, hnow.1, hnow.2, rfl⟩
        · exact .inr h
      · exact .inr h
    · rintro (⟨hfirst, hservice, hstands, hhealthy⟩ | h)
      · cases hfirst
        rw [if_pos ⟨hservice, hstands⟩, ← hhealthy]
        exact List.mem_cons_self
      · split
        · exact List.mem_cons_of_mem _ h
        · exact h

/-- Where an entry that stands comes from: its registration, and what was done after it. -/
theorem mem_standing {e : DiscoveryEntry} : e ∈ standing service operations ↔
    ∃ before later, operations = before ++ .register e.node :: later ∧ service = e.node.service ∧
      Stands e.node later ∧ e.healthy = (lastHealth? e.node later).getD true := by
  induction operations with
  | nil => simp [standing]
  | cons first operations ih =>
    rw [mem_standing_cons, ih]
    constructor
    · rintro (⟨rfl, hrest⟩ | ⟨before, later, rfl, hrest⟩)
      · exact ⟨[], operations, rfl, hrest⟩
      · exact ⟨first :: before, later, rfl, hrest⟩
    · rintro ⟨before, later, heq, hrest⟩
      cases before with
      | nil =>
        cases heq
        exact .inl ⟨rfl, hrest⟩
      | cons _ before =>
        cases heq
        exact .inr ⟨before, later, rfl, hrest⟩

/-- No code has two registrations that stand. -/
theorem nodup_standing (service : String) (operations : List Operation) :
    ((standing service operations).map (·.node.code)).Nodup := by
  induction operations with
  | nil => exact List.nodup_nil
  | cons first operations ih =>
    cases first with
    | unregister => exact ih
    | setHealthy => exact ih
    | register node =>
      rw [standing]
      split
      · next hnow =>
        refine List.nodup_cons.mpr ⟨fun hmem => ?_, ih⟩
        obtain ⟨e, he, hcode⟩ := List.mem_map.mp hmem
        obtain ⟨before, later, rfl, hservice, -⟩ := mem_standing.mp he
        have hends := hnow.2 (.register e.node) (by simp)
        simp [Operation.ends, ← hnow.1, hservice, hcode] at hends
      · exact ih

/-- Healthy is an instance of which nothing else was said last. -/
theorem listed_eq (service : String) (operations : List Operation) :
    listed service operations =
      ((standing service operations).filter (·.healthy)).map (·.node) := by
  induction operations with
  | nil => rfl
  | cons first operations ih =>
    cases first with
    | unregister => exact ih
    | setHealthy => exact ih
    | register node =>
      rw [listed, standing, ih]
      by_cases hnow : service = node.service ∧ Stands node operations
      · rw [if_pos hnow]
        rcases lastHealth? node operations with _ | _ | _ <;> simp [hnow]
      · rw [if_neg hnow, if_neg fun h => hnow ⟨h.1, h.2.1⟩]

theorem listHealthy_run (service : String) (operations : List Operation) :
    (run operations).listHealthy service = listed service operations := by
  rw [listHealthy, entries_run, listed_eq]

theorem mem_listed : node ∈ listed service operations ↔
    ∃ before later, operations = before ++ .register node :: later ∧ service = node.service ∧
      Stands node later ∧ lastHealth? node later ≠ some false := by
  have hhealthy : ∀ last : Option Bool, true = last.getD true ↔ last ≠ some false := by
    rintro (_ | _ | _) <;> simp
  rw [listed_eq, List.mem_map]
  constructor
  · rintro ⟨e, he, rfl⟩
    obtain ⟨hmem, hlisted⟩ := List.mem_filter.mp he
    obtain ⟨before, later, heq, hservice, hstands, hlast⟩ := mem_standing.mp hmem
    exact ⟨before, later, heq, hservice, hstands, (hhealthy _).mp (hlisted.symm.trans hlast)⟩
  · rintro ⟨before, later, heq, hservice, hstands, hlast⟩
    refine ⟨{ node := node, healthy := true }, List.mem_filter.mpr ⟨mem_standing.mpr ?_, rfl⟩, rfl⟩
    exact ⟨before, later, heq, hservice, hstands, (hhealthy _).mpr hlast⟩

/-! ## Answers and unknown names -/

/-- A service without entries has no codes. -/
theorem codes_of_none {d : MemoryDiscovery} (h : d[service]? = none) : d.codes service = [] := by
  rw [codes, entries_of_none h, List.map_nil]

/-- It is answered whether there was anything to take away. -/
theorem fst_unregister (d : MemoryDiscovery) (service code : String) :
    (d.unregister service code).1 = true ↔ code ∈ d.codes service := by
  rw [unregister]
  split
  · next hnone => simp [codes_of_none hnone]
  · next those hsome =>
    simp only [bne_iff_ne, ne_eq, List.length_filter_eq_length_iff, codes, entries_of_some hsome,
      List.mem_map, not_forall, not_not, exists_prop]

/-- A code that is taken away is gone, and no other is. -/
theorem codes_unregister {d : MemoryDiscovery} (nodup : (d.codes service).Nodup) (code : String) :
    (d.unregister service code).2.codes service = (d.codes service).erase code := by
  have hentries : (d.unregister service code).2.entries service =
      (d.entries service).filter fun e => e.node.code != code :=
    (Operation.entries_apply d (.unregister service code) service).trans (if_pos rfl)
  rw [nodup.erase_eq_filter, codes, codes, List.filter_map, hentries]
  rfl

/-- Whoever takes away a code that is not there changes nothing. -/
theorem unregister_of_not_mem {d : MemoryDiscovery} (h : code ∉ d.codes service) :
    (d.unregister service code).2 = d := by
  rw [unregister_eq_amend]
  refine amend_eq_self (List.filter_eq_self.mpr fun e he => bne_iff_ne.mpr fun heq => h ?_)
  exact List.mem_map.mpr ⟨e, he, heq⟩

/-- Whoever speaks of the health of a code that is not there changes nothing. -/
theorem setHealthy_of_not_mem {d : MemoryDiscovery} (h : code ∉ d.codes service) (healthy : Bool) :
    d.setHealthy service code healthy = d := by
  rw [setHealthy_eq_amend]
  refine amend_eq_self ((List.map_congr_left fun e he => if_neg fun heq => h ?_).trans
    (List.map_id' _))
  exact List.mem_map.mpr ⟨e, he, heq⟩

/-- **A registry lists what stands.** Whatever has been registered, taken away and said about
health, for any services and codes:

* the codes under a service are distinct, and every entry under a service belongs to it;
* a service lists the instances whose registrations stand, in the order of these registrations, but
  for those of which it was said last that they are not healthy;
* taking a code away is answered by whether it was there, and takes away this code only;
* what is done to one service is nothing to the others, and what is done to a code that is not there
  is nothing at all. -/
theorem registry_lists_what_stands (operations : List Operation) :
    let d := run operations
    (∀ service, (d.codes service).Nodup ∧ ∀ e ∈ d.entries service, e.node.service = service) ∧
    (∀ service, d.listHealthy service = listed service operations) ∧
    (∀ service node, node ∈ d.listHealthy service ↔
      ∃ before later, operations = before ++ .register node :: later ∧ service = node.service ∧
        Stands node later ∧ lastHealth? node later ≠ some false) ∧
    (∀ service code, ((d.unregister service code).1 = true ↔ code ∈ d.codes service) ∧
      (d.unregister service code).2.codes service = (d.codes service).erase code) ∧
    (∀ (operation : Operation) service, service ≠ operation.service →
      (operation.apply d).entries service = d.entries service) ∧
    ∀ service code, code ∉ d.codes service → (d.unregister service code).2 = d ∧
      ∀ healthy, d.setHealthy service code healthy = d := by
  intro d
  have hnodup : ∀ service, (d.codes service).Nodup := fun service => by
    rw [codes, entries_run]
    exact nodup_standing service operations
  refine ⟨fun service => ⟨hnodup service, fun e he => ?_⟩,
    fun service => listHealthy_run service operations, fun service node => ?_,
    fun service code => ⟨fst_unregister d service code, codes_unregister (hnodup service) code⟩,
    fun operation service hne => ?_,
    fun service code h => ⟨unregister_of_not_mem h, setHealthy_of_not_mem h⟩⟩
  · rw [entries_run] at he
    obtain ⟨-, -, -, hservice, -⟩ := mem_standing.mp he
    exact hservice.symm
  · rw [listHealthy_run, mem_listed]
  · rw [Operation.entries_apply, operation.effect_of_ne hne]

/-- A greeter under some code, at some port. -/
def greeterAt (code : String) (port : UInt16) : ServiceInstance :=
  { code := code, service := "greeter", host := "10.0.0.1", port := port, metadata := ∅ }

/-- Left is registered again after it was said not to be healthy. Right is said so later, and it is
another service that has no right. -/
def greetersMove : List Operation :=
  [.register (greeterAt "left" 80), .register (greeterAt "right" 80),
    .setHealthy "greeter" "left" false, .setHealthy "other" "right" true,
    .register { greeterAt "left" 90 with service := "other" }, .register (greeterAt "middle" 80),
    .setHealthy "greeter" "right" true, .register (greeterAt "left" 81),
    .setHealthy "greeter" "right" false, .unregister "other" "right",
    .unregister "greeter" "middle"]

theorem moved_greeters_stand :
    let d := run greetersMove
    (d.listHealthy "greeter").map (fun node => (node.code, node.port)) = [("left", 81)] ∧
      ((d.unregister "greeter" "right").1 = true ∧
        (d.unregister "greeter" "right").2.codes "greeter" = ["left"]) ∧
      ((Operation.setHealthy "greeter" "left" false).apply d).entries "other" = d.entries "other" ∧
      ((d.unregister "other" "right").2 = d ∧ d.setHealthy "nobody" "left" true = d) := by
  intro d
  obtain ⟨-, hlists, -, htaken, hothers, hunknown⟩ := registry_lists_what_stands greetersMove
  have hcodes : d.codes "greeter" = ["right", "left"] := by
    rw [codes, entries_run]
    decide
  refine ⟨?_, ⟨(htaken "greeter" "right").1.mpr ?_, (htaken "greeter" "right").2.trans ?_⟩,
    hothers _ "other" (by decide), (hunknown "other" "right" ?_).1,
    (hunknown "nobody" "left" ?_).2 true⟩
  · rw [hlists]
    decide
  · rw [hcodes]
    decide
  · rw [hcodes]
    decide
  · rw [codes, entries_run]
    decide
  · rw [codes, entries_run]
    decide

end RemoteCall.MemoryDiscovery
