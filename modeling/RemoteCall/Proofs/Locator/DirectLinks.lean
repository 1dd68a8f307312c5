/-
Links to direct addresses.

A service with direct addresses is linked to the instances at these addresses, in their order. An
address that a reference accepts always leads to an instance; the instance has nothing but its
address, and no metadata. The selection on a link is the one that every locator has, with the
group router in front of the balancer. As no instance at a direct address names a group, a link
has nothing to offer to a service that was imported with one.

* `Client.link_of_valid` — a reference that passes its own check is always linked.
* `Client.direct_links_serve_no_group` — when a link has an instance for a call, and which.
-/
import Mathlib.Data.List.Forall2
import RemoteCall.Proofs.Client.Importing
import RemoteCall.Proofs.Client.Surroundings
import RemoteCall.Proofs.Locator.Selection
import RemoteCall.Proofs.Text.Spelling

namespace RemoteCall

/-! ## Checks in a row -/

section Checks

variable {α ε : Type} {items : List α} {check : α → Except ε Unit} {e : ε}

/-- Checks in a row succeed only if each of them does. -/
theorem of_mem_of_forM_eq_ok (h : items.forM check = .ok ()) :
    ∀ item ∈ items, check item = .ok () := by
  induction items with
  | nil => exact nofun
  | cons first rest ih =>
    have hboth : (check first >>= fun _ => rest.forM check) = .ok () := h
    cases hfirst : check first with
    | error cause =>
      rw [hfirst] at hboth
      cases hboth
    | ok =>
      rw [hfirst] at hboth
      exact List.forall_mem_cons.mpr ⟨hfirst, ih hboth⟩

/-- They fail as one of them does. -/
theorem exists_of_forM_eq_error (h : items.forM check = .error e) :
    ∃ item ∈ items, check item = .error e := by
  induction items with
  | nil => cases h
  | cons first rest ih =>
    have hboth : (check first >>= fun _ => rest.forM check) = .error e := h
    cases hfirst : check first with
    | error cause =>
      rw [hfirst] at hboth
      cases hboth
      exact ⟨first, List.mem_cons_self, hfirst⟩
    | ok =>
      rw [hfirst] at hboth
      obtain ⟨item, hitem, heq⟩ := ih hboth
      exact ⟨item, List.mem_cons_of_mem first hitem, heq⟩

end Checks

/-! ## Addresses -/

/-- An address that stands for itself leads to this instance. -/
def ListensAt (service url : String) (node : ServiceInstance) : Prop :=
  ∃ a, Address.parse url = .ok a ∧ node = .ofHostPort service a.host a.port

namespace ReferenceConfig

variable {reference : ReferenceConfig}

/-- The direct addresses of a reference have no white space around them. -/
theorem trimChars_of_mem_directUrls {url : String} (h : url ∈ reference.directUrls) :
    Text.trimChars url.toList = url.toList := by
  unfold directUrls at h
  split at h
  · cases h
  · obtain ⟨piece, hpiece, rfl⟩ := List.mem_map.mp h
    obtain ⟨text, -, rfl⟩ := List.mem_map.mp (List.mem_filter.mp hpiece).1
    rw [String.toList_ofList, Text.trimChars_trimChars]

theorem parse_of_validate (valid : reference.validate = .ok ()) :
    ∀ url ∈ reference.directUrls, ∃ a, Address.parse url = .ok a := by
  intro url hurl
  have hthis := of_mem_of_forM_eq_ok valid url hurl
  rw [validateUrl] at hthis
  cases hparse : Address.parse url with
  | error cause =>
    rw [hparse] at hthis
    cases hthis
  | ok a => exact ⟨a, rfl⟩

end ReferenceConfig

/-! ## Links -/

theorem DirectLocator.ofAddresses_eq {urls : List String} (service : String)
    (trimmed : ∀ url ∈ urls, Text.trimChars url.toList = url.toList)
    (addresses : ∀ url ∈ urls, ∃ a, Address.parse url = .ok a) :
    ∃ instances, ofAddresses service urls = .ok { instances := instances } ∧
      List.Forall₂ (ListensAt service) urls instances := by
  suffices h : ∃ instances, urls.mapM (ServiceInstance.ofAddress service) = .ok instances ∧
      List.Forall₂ (ListensAt service) urls instances by
    obtain ⟨instances, hinstances, hall⟩ := h
    refine ⟨instances, ?_, hall⟩
    rw [ofAddresses, hinstances]
    rfl
  induction urls with
  | nil => exact ⟨[], rfl, .nil⟩
  | cons first rest ih =>
    obtain ⟨a, ha⟩ := addresses first List.mem_cons_self
    obtain ⟨nodes, hnodes, hall⟩ := ih (fun url h => trimmed url (List.mem_cons_of_mem _ h))
      fun url h => addresses url (List.mem_cons_of_mem _ h)
    refine ⟨.ofHostPort service a.host a.port :: nodes, ?_, .cons ⟨a, ha, rfl⟩ hall⟩
    have hfirst : ServiceInstance.ofAddress service first =
        .ok (.ofHostPort service a.host a.port) := by
      rw [ServiceInstance.ofAddress, trimmed first List.mem_cons_self,
        show Address.ofChars first.toList = .ok a from ha]
    rw [List.mapM_cons, hfirst, hnodes]
    rfl

/-- A direct address says nothing about a group. -/
theorem inGroup_of_listensAt {service : String} {urls : List String}
    {nodes : List ServiceInstance} (h : List.Forall₂ (ListensAt service) urls nodes)
    (group : Option String) : ∀ node ∈ nodes, inGroup group node = group.isNone := by
  induction h with
  | nil => intro node hnode; cases hnode
  | cons first _ ih =>
    intro node hnode
    rcases List.mem_cons.mp hnode with rfl | hnode
    · obtain ⟨a, -, rfl⟩ := first
      cases group with
      | none => rfl
      | some g => simp [inGroup, ServiceInstance.ofHostPort]
    · exact ih node hnode

namespace Network

variable {L W : Type}

/-- The link at this place has these instances, however often it was used. -/
def LinkedTo (network : Network L W) (place : Nat) (instances : List ServiceInstance) : Prop :=
  (network.links[place]?).map (·.instances) = some instances

variable [Locator L] {network : Network L W} {place : Nat} {instances : List ServiceInstance}

/-- No look-up changes the instances of a link, whatever service it is for. -/
theorem LinkedTo.locate (h : network.LinkedTo place instances) (link : Option Nat)
    (invocation : Invocation) (exclusions : List ServiceInstance) :
    (network.locate link invocation exclusions).2.LinkedTo place instances := by
  cases link with
  | none =>
    unfold Network.locate
    cases network.shared <;> exact h
  | some other =>
    by_cases hother : other = place
    · subst hother
      exact (network.instances_locate invocation exclusions other).trans h
    · cases hlink : network.links[other]? with
      | none =>
        simp only [Network.locate, hlink]
        exact h
      | some direct =>
        simp only [Network.locate, hlink, LinkedTo, List.getElem?_set_ne hother]
        exact h

/-- No feedback changes the instances of a link. -/
theorem LinkedTo.feedback (h : network.LinkedTo place instances) (link : Option Nat)
    (node : ServiceInstance) (outcome : Outcome) (elapsed : Elapsed) :
    (network.feedback link node outcome elapsed).LinkedTo place instances := by
  cases link with
  | none => exact h
  | some other =>
    by_cases hother : other = place
    · subst hother
      exact (network.instances_feedback other node outcome elapsed).trans h
    · show ((network.links.modify other _)[place]?).map _ = _
      rw [List.getElem?_modify_ne _ _ hother]
      exact h

/-- A link picks among its instances of the group that are not excluded, and has no pick only if
there is none. -/
theorem LinkedTo.locate_eq (h : network.LinkedTo place instances) (invocation : Invocation)
    (exclusions : List ServiceInstance) :
    ((network.locate (some place) invocation exclusions).1 = none ↔
      ∀ node ∈ instances, inGroup invocation.service.group node = true →
        ∃ e ∈ exclusions, e.code = node.code) ∧
    ∀ node, (network.locate (some place) invocation exclusions).1 = some node →
      node ∈ instances ∧ inGroup invocation.service.group node = true ∧
        ∀ e ∈ exclusions, e.code ≠ node.code := by
  obtain ⟨direct, hdirect, rfl⟩ := Option.map_eq_some_iff.mp h
  rw [Network.locate_link, hdirect, Option.bind_some]
  let any : AnyLocator MemoryDiscovery := .inl direct
  have hsame : (Locator.locate direct invocation exclusions).1 =
      (Locator.locate any invocation exclusions).1 := rfl
  rw [hsame]
  constructor
  · rw [AnyLocator.locate_eq_none_iff, List.eq_nil_iff_forall_not_mem]
    refine forall_congr' fun node => ?_
    rw [AnyLocator.mem_eligible]
    constructor
    · intro hnot hnode hgroup
      by_contra hnone
      exact hnot ⟨hnode, hgroup, fun e he hcode => hnone ⟨e, he, hcode⟩⟩
    · rintro hall ⟨hnode, hgroup, hfree⟩
      obtain ⟨e, he, hcode⟩ := hall hnode hgroup
      exact hfree e he hcode
  · intro node hnode
    exact AnyLocator.mem_eligible.mp (AnyLocator.mem_eligible_of_locate hnode)

variable {service : String} {urls : List String}

/-- A link to direct addresses has no pick for a service with a group; for any other one it has
none only if all of them are excluded. -/
theorem LinkedTo.locate_eq_none_iff (h : network.LinkedTo place instances)
    (listening : List.Forall₂ (ListensAt service) urls instances) (invocation : Invocation)
    (exclusions : List ServiceInstance) :
    (network.locate (some place) invocation exclusions).1 = none ↔
      invocation.service.group.isSome = true ∨
        ∀ node ∈ instances, ∃ e ∈ exclusions, e.code = node.code := by
  have hin := inGroup_of_listensAt listening invocation.service.group
  rw [(h.locate_eq invocation exclusions).1]
  cases hgroup : invocation.service.group with
  | none =>
    simp only [hgroup, Option.isNone_none] at hin
    constructor
    · exact fun hall => .inr fun node hnode => hall node hnode (hin node hnode)
    · rintro (hsome | hall)
      · cases hsome
      · exact fun node hnode _ => hall node hnode
  | some g =>
    simp only [hgroup, Option.isNone_some] at hin
    constructor
    · exact fun _ => .inl rfl
    · intro _ node hnode hmember
      rw [hin node hnode] at hmember
      cases hmember

/-- A link to at least one address has a pick for the first attempt of every call, if the service
has no group. -/
theorem LinkedTo.locate_first_isSome_iff (h : network.LinkedTo place instances)
    (listening : List.Forall₂ (ListensAt service) urls instances) (listed : instances ≠ [])
    (invocation : Invocation) :
    (network.locate (some place) invocation []).1.isSome = true ↔
      invocation.service.group = none := by
  rw [Option.isSome_iff_ne_none, ne_eq, h.locate_eq_none_iff listening, not_or]
  constructor
  · rintro ⟨hgroup, -⟩
    rwa [Option.not_isSome_iff_eq_none] at hgroup
  · intro hgroup
    refine ⟨Option.not_isSome_iff_eq_none.mpr hgroup, fun hall => ?_⟩
    obtain ⟨node, hnode⟩ := List.exists_mem_of_ne_nil _ listed
    obtain ⟨e, he, -⟩ := hall node hnode
    cases he

end Network

/-! ## Imports -/

namespace Client

variable {L W : Type} {c after : Client L W} {reference : ReferenceConfig} {name : String}
  {i : Import}

/-- Every reference that passes its own check and has direct addresses is linked to them. -/
theorem link_of_valid (c : Client L W) (name : String) (valid : reference.validate = .ok ())
    (direct : reference.directUrls ≠ []) :
    ∃ instances, List.Forall₂ (ListensAt name) reference.directUrls instances ∧
      c.link name reference = .ok (some c.network.links.length,
        { c.network with links := c.network.links ++ [{ instances := instances }] }) := by
  obtain ⟨instances, hlink, hall⟩ := DirectLocator.ofAddresses_eq name
    (fun url => reference.trimChars_of_mem_directUrls) (reference.parse_of_validate valid)
  refine ⟨instances, hall, ?_⟩
  unfold link
  split
  · next hnone => exact absurd hnone direct
  · rw [hlink]
    rfl

variable [Locator L]

/-- **Direct links serve no group.** A service is imported under a reference that passes its own
check and has direct addresses. It is linked to the instances at these addresses for good. If
the reference names a group, the link never has an instance for any call; if it names none, the
link has one for every call unless all of them are excluded, and never one that is. -/
theorem direct_links_serve_no_group (valid : reference.validate = .ok ())
    (direct : reference.directUrls ≠ []) (imported : c.Imports name reference i after) :
    ∃ place instances, i.link = some place ∧
      List.Forall₂ (ListensAt name) reference.directUrls instances ∧
      after.network.LinkedTo place instances ∧
      (∀ network : Network L W, network.LinkedTo place instances →
        (∀ link invocation exclusions,
          (network.locate link invocation exclusions).2.LinkedTo place instances) ∧
        ∀ link node outcome elapsed,
          (network.feedback link node outcome elapsed).LinkedTo place instances) ∧
      ∀ (network : Network L W) (invocation : Invocation) (exclusions : List ServiceInstance)
        (methods : Table MethodConfig), network.LinkedTo place instances →
        invocation.service = i.service.withMethods methods →
        ((network.locate i.link invocation exclusions).1 = none ↔
          reference.group.isSome = true ∨
            ∀ node ∈ instances, ∃ e ∈ exclusions, e.code = node.code) ∧
        (∀ node, (network.locate i.link invocation exclusions).1 = some node →
          reference.group = none ∧ node ∈ instances ∧ ∀ e ∈ exclusions, e.code ≠ node.code) ∧
        ((network.locate i.link invocation []).1.isSome = true ↔ reference.group = none) := by
  obtain ⟨hlink, -, service, declared, hservice, himported⟩ := imported.eq_ok
  obtain ⟨instances, hall, hlinked⟩ := c.link_of_valid name valid direct
  rw [hlinked] at hlink
  obtain ⟨hplace, hnetwork⟩ := Prod.mk.inj (Except.ok.inj hlink)
  have hnodes : instances ≠ [] := by
    rintro rfl
    exact direct (List.forall₂_nil_right_iff.mp hall)
  refine ⟨c.network.links.length, instances, hplace.symm, hall, ?_,
    fun _ hlinks => ⟨hlinks.locate, hlinks.feedback⟩, ?_⟩
  · rw [← hnetwork]
    simp [Network.LinkedTo]
  · intro network invocation exclusions methods hlinks hinvocation
    have hgroup : invocation.service.group = reference.group := by
      obtain ⟨-, -, hreference, -⟩ := Service.of_ofReference hservice
      rw [hinvocation, himported, ← hreference]
      rfl
    rw [← hplace, ← hgroup]
    refine ⟨hlinks.locate_eq_none_iff hall invocation exclusions, fun node hnode => ?_,
      hlinks.locate_first_isSome_iff hall hnodes invocation⟩
    obtain ⟨hmem, hmember, hfree⟩ := (hlinks.locate_eq invocation exclusions).2 node hnode
    rw [inGroup_of_listensAt hall _ node hmem, Option.isNone_iff_eq_none] at hmember
    exact ⟨hmember, hmem, hfree⟩

/-- A reference with two direct addresses, and a group or none. -/
def greeterAt (group : Option String) : ReferenceConfig :=
  { url := some "left:80,right:80", group := group }

/-- A client without services, to which no send succeeds. -/
def newcomer : Client DirectLocator Script :=
  Script.client { shared := none, links := [], world := [] }

/-- What it has imported under such a reference. -/
def greeter (group : Option String) : Import where
  service := {
    name := "demo.Greeter", client := {}, reference := greeterAt group,
    codec := CodecOptions.plain .json, connectRetry := 1, timeoutRetry := 1, methods := ∅ }
  link := some 0
  typed := false

/-- The client with the link. -/
def linkedNewcomer : Client DirectLocator Script :=
  Script.client {
    shared := none
    links := [{ instances := [.ofHostPort "demo.Greeter" "left" 80,
      .ofHostPort "demo.Greeter" "right" 80] }]
    world := [] }

theorem newcomer_imports (group : Option String) :
    newcomer.importBare "demo.Greeter" (greeterAt group) false =
      .ok (greeter group, linkedNewcomer) := by
  have hoptions : ResolvedOptions.resolve none (greeterAt group).options {} =
      .resolve none {} {} := by rfl
  have hservice : Service.ofReference newcomer.plugins "demo.Greeter" newcomer.config
      (greeterAt group) = .ok (greeter group).service := by
    show Service.ofReference .builtIn "demo.Greeter" {} (greeterAt group) = _
    rw [Service.ofReference, hoptions]
    rfl
  have hlink : newcomer.link "demo.Greeter" (greeterAt group) =
      .ok ((greeter group).link, linkedNewcomer.network) := by rfl
  rw [importBare, hlink]
  simp only [bind, Except.bind]
  rw [hservice]
  rfl

/-- Without a group the first look-up finds an instance. -/
theorem first_address_is_found :
    (greeterAt none).validate = .ok () ∧ (greeterAt none).directUrls ≠ [] ∧
      newcomer.Imports "demo.Greeter" (greeterAt none) (greeter none) linkedNewcomer ∧
      ∀ method, (linkedNewcomer.network.locate (some 0)
        (.ofMethod (greeter none).service method none none) []).1.isSome = true := by
  have valid : (greeterAt none).validate = .ok () := rfl
  have direct : (greeterAt none).directUrls ≠ [] := by decide
  have imported : newcomer.Imports "demo.Greeter" (greeterAt none) (greeter none)
      linkedNewcomer := .bare (newcomer_imports none)
  refine ⟨valid, direct, imported, fun method => ?_⟩
  obtain ⟨place, instances, hplace, -, hlinked, -, hall⟩ :=
    direct_links_serve_no_group valid direct imported
  obtain ⟨-, -, hfirst⟩ := hall linkedNewcomer.network
    (.ofMethod (greeter none).service method none none) [] ∅ hlinked rfl
  exact hfirst.mpr rfl

/-- **A group leaves nothing of a direct link.** Nothing is excluded, two addresses are listed,
and no call has a candidate. -/
theorem group_hides_direct_addresses :
    (greeterAt (some "blue")).validate = .ok () ∧
      (greeterAt (some "blue")).directUrls = ["left:80", "right:80"] ∧
      newcomer.importBare "demo.Greeter" (greeterAt (some "blue")) false =
        .ok (greeter (some "blue"), linkedNewcomer) ∧
      ∀ method parameter context, (linkedNewcomer.network.locate (greeter (some "blue")).link
        (.ofMethod (greeter (some "blue")).service method parameter context) []).1 = none :=
  ⟨rfl, rfl, newcomer_imports _, fun _ _ _ => rfl⟩

end Client

end RemoteCall
