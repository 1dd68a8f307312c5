/-
References that are accepted and references that import.

Direct addresses are read twice: a reference is checked when the configuration is loaded, and a
service is linked to the instances at its addresses when it is imported. Both take the same texts
for addresses, and they stop at the same one for the same reason.

* `ReferenceConfig.ofAddresses_of_invalid` — what is refused by the check is refused by the link.
* `ReferenceConfig.valid_references_import` — a reference is accepted exactly if its addresses make
  a link, and what is in the link.
-/
import RemoteCall.Proofs.Locator.Addresses
import RemoteCall.Proofs.Locator.DirectLinks

namespace RemoteCall

/-! ## Configurations -/

namespace RootConfig

variable {root : RootConfig} {name : String} {reference : ReferenceConfig} {fault : ReferenceFault}

theorem mem_toList_references :
    (name, reference) ∈ root.references.toList ↔ root.reference? name = some reference :=
  Std.ExtTreeMap.mem_toList_iff_getElem?_eq_some

/-- Every reference of a configuration that passes its check passes its own. -/
theorem validate_reference (h : root.validate = .ok ())
    (listed : root.reference? name = some reference) : reference.validate = .ok () := by
  simp only [validate, bind, Except.bind] at h
  split at h
  · cases h
  · have hmem := mem_toList_references.mpr listed
    have hthis := of_mem_of_forM_eq_ok h _ hmem
    cases hvalid : reference.validate with
    | error cause =>
      rw [hvalid] at hthis
      cases hthis
    | ok => rfl

/-- A configuration that is refused for a reference has one under this name that fails its own
check. -/
theorem exists_reference_of_validate (h : root.validate = .error (.reference name fault)) :
    ∃ reference, root.reference? name = some reference ∧ reference.validate = .error fault := by
  simp only [validate, bind, Except.bind] at h
  split at h
  · next cause hclient =>
    cases h
    cases hvalid : root.client.validate with
    | error cause =>
      rw [hvalid] at hclient
      cases hclient
    | ok =>
      rw [hvalid] at hclient
      cases hclient
  · obtain ⟨⟨other, reference⟩, hmem, hthis⟩ := exists_of_forM_eq_error h
    cases hvalid : reference.validate with
    | error cause =>
      rw [hvalid] at hthis
      cases hthis
      exact ⟨reference, mem_toList_references.mp hmem, hvalid⟩
    | ok =>
      rw [hvalid] at hthis
      cases hthis

end RootConfig

/-! ## Links -/

/-- What an address that is refused is answered with, when an instance is looked for at it. -/
def ReferenceFault.refusal (fault : ReferenceFault) : CallError :=
  .config ("address '" ++ fault.url ++ "' " ++ fault.cause.message)

/-- A piece of a list of addresses, trimmed, is the host of an instance, a colon that is the last
one, and a numeral of its port. The instance has nothing else of its own. -/
def ServiceInstance.NamedBy (service : String) (piece : List Char) (node : ServiceInstance) :
    Prop :=
  (∃ digits, Text.trimChars piece = node.host.toList ++ ':' :: digits ∧ ':' ∉ digits ∧
    Text.Denotes digits node.port.toNat) ∧
  node.host ≠ "" ∧ node = .ofHostPort service node.host node.port

namespace DirectLocator

variable {service : String} {urls : List String} {direct : DirectLocator}

/-- A link has one instance for every address, in their order. -/
theorem forall_ofAddress (h : ofAddresses service urls = .ok direct) :
    List.Forall₂ (fun url node => ServiceInstance.ofAddress service url = .ok node) urls
      direct.instances := by
  simp only [ofAddresses, bind, Except.bind, pure, Except.pure] at h
  split at h
  · cases h
  · next nodes hnodes =>
    cases h
    induction urls generalizing nodes with
    | nil =>
      cases hnodes
      exact .nil
    | cons first rest ih =>
      rw [List.mapM_cons] at hnodes
      cases hfirst : ServiceInstance.ofAddress service first with
      | error e =>
        rw [hfirst] at hnodes
        cases hnodes
      | ok node =>
        cases hrest : rest.mapM (ServiceInstance.ofAddress service) with
        | error e =>
          rw [hfirst, hrest] at hnodes
          cases hnodes
        | ok others =>
          rw [hfirst, hrest] at hnodes
          cases hnodes
          exact .cons hfirst (ih others hrest)

end DirectLocator

namespace ReferenceConfig

variable {reference : ReferenceConfig} {service url : String} {pieces : List (List Char)}
  {fault : ReferenceFault} {direct : DirectLocator}

/-- The first address that the check refuses is the first one that the link refuses. -/
theorem ofAddresses_of_invalid (service : String) (h : reference.validate = .error fault) :
    DirectLocator.ofAddresses service reference.directUrls = .error fault.refusal := by
  suffices hmap : reference.directUrls.mapM (ServiceInstance.ofAddress service) =
      .error fault.refusal by
    rw [DirectLocator.ofAddresses, hmap]
    rfl
  -- the link trims an address before it reads it, which makes no difference to a direct address
  have htrimmed : ∀ url ∈ reference.directUrls, Text.trimChars url.toList = url.toList :=
    fun _ => trimChars_of_mem_directUrls
  rw [validate] at h
  generalize reference.directUrls = urls at h htrimmed
  induction urls with
  | nil => cases h
  | cons first rest ih =>
    have hboth : (validateUrl first >>= fun _ => rest.forM validateUrl) = .error fault := h
    rw [validateUrl] at hboth
    rw [List.mapM_cons, ServiceInstance.ofAddress, htrimmed first List.mem_cons_self,
      ← Address.parse]
    cases hfirst : Address.parse first with
    | error cause =>
      rw [hfirst] at hboth
      cases hboth
      rfl
    | ok a =>
      rw [hfirst] at hboth
      rw [ih hboth fun url hurl => htrimmed url (List.mem_cons_of_mem first hurl)]
      rfl

/-- The check and the link accept the same references. -/
theorem validate_iff (service : String) : reference.validate = .ok () ↔
    ∃ direct, DirectLocator.ofAddresses service reference.directUrls = .ok direct := by
  constructor
  · intro h
    obtain ⟨instances, hlink, -⟩ := DirectLocator.ofAddresses_eq service
      (fun url => reference.trimChars_of_mem_directUrls) (reference.parse_of_validate h)
    exact ⟨_, hlink⟩
  · rintro ⟨direct, hlink⟩
    cases h : reference.validate with
    | ok => rfl
    | error fault =>
      rw [ofAddresses_of_invalid service h] at hlink
      cases hlink

/-- The direct addresses are the pieces that are not blank. -/
theorem directUrls_eq (given : reference.url = some url)
    (cut : Text.splitOn ',' url.toList = pieces) :
    reference.directUrls = (pieces.filter fun piece => !piece.all Text.isWhite).map
      fun piece => String.ofList (Text.trimChars piece) := by
  have hblank : (fun piece : List Char => !piece.isEmpty) ∘ Text.trimChars =
      fun piece => !piece.all Text.isWhite := by
    funext piece
    rw [Function.comp_apply, Bool.eq_iff_iff]
    simp only [Bool.not_eq_true', List.isEmpty_eq_false_iff, ne_eq, Text.trimChars_eq_nil_iff,
      List.all_eq_false, not_forall, exists_prop, Bool.not_eq_true]
  rw [directUrls, given, ← cut]
  simp only [splitUrls, List.filter_map, hblank, List.map_map]
  rfl

/-- The instances of a link are named by the pieces, in their order. -/
theorem forall_namedBy (given : reference.url = some url)
    (cut : Text.splitOn ',' url.toList = pieces)
    (h : DirectLocator.ofAddresses service reference.directUrls = .ok direct) :
    List.Forall₂ (ServiceInstance.NamedBy service)
      (pieces.filter fun piece => !piece.all Text.isWhite) direct.instances := by
  have hall := DirectLocator.forall_ofAddress h
  rw [directUrls_eq given cut, List.forall₂_map_left_iff] at hall
  refine hall.imp fun piece node hread => ?_
  obtain ⟨hwritten, hnode⟩ := ServiceInstance.ofAddress_eq_ok_iff.mp hread
  rw [String.toList_ofList, Text.trimChars_trimChars] at hwritten
  obtain ⟨digits, htext, hhost, hport⟩ := hwritten
  exact ⟨⟨digits, htext, Address.colon_not_mem_of_denotes hport, hport⟩, hhost, hnode⟩

/-- The check accepts a reference whose pieces are all addresses, and no other. -/
theorem validate_iff_forall_namedBy (given : reference.url = some url)
    (cut : Text.splitOn ',' url.toList = pieces) (service : String) :
    reference.validate = .ok () ↔ ∀ piece ∈ pieces.filter fun piece => !piece.all Text.isWhite,
      ∃ node, ServiceInstance.NamedBy service piece node := by
  constructor
  · intro h
    obtain ⟨direct, hlink⟩ := (validate_iff service).mp h
    have hboth := (forall_namedBy given cut hlink).imp fun _ node hnamed =>
      And.intro (Exists.intro node hnamed) hnamed
    exact ((List.forall₂_and_left _ _).mp hboth).1
  · intro hall
    cases h : reference.validate with
    | ok => rfl
    | error fault =>
      obtain ⟨refused, hmem, hfault⟩ := exists_of_forM_eq_error h
      rw [directUrls_eq given cut] at hmem
      obtain ⟨piece, hpiece, rfl⟩ := List.mem_map.mp hmem
      obtain ⟨node, ⟨digits, htext, -, hport⟩, hhost, -⟩ := hall piece hpiece
      have hread : Address.parse (String.ofList (Text.trimChars piece)) =
          .ok ⟨node.host, node.port⟩ := by
        rw [Address.parse, String.toList_ofList]
        exact Address.ofChars_eq_ok_iff.mpr ⟨digits, htext, hhost, hport⟩
      rw [validateUrl, hread] at hfault
      cases hfault

end ReferenceConfig

/-! ## Imports -/

namespace Client

variable {L W : Type} {c after : Client L W} {reference : ReferenceConfig} {name : String}
  {i : Import} {fault : ReferenceFault}

theorem link_of_invalid (c : Client L W) (name : String) (h : reference.validate = .error fault) :
    c.link name reference = .error fault.refusal := by
  have hlink := ReferenceConfig.ofAddresses_of_invalid name h
  unfold link
  split
  · next hnone =>
    rw [hnone] at hlink
    cases hlink
  · rw [hlink]
    rfl

/-- Nothing is imported under a reference that fails its check. -/
theorem Imports.validate_eq (h : c.Imports name reference i after) :
    reference.validate = .ok () := by
  obtain ⟨hlink, -⟩ := h.eq_ok
  cases hvalid : reference.validate with
  | ok => rfl
  | error fault =>
    rw [c.link_of_invalid name hvalid] at hlink
    cases hlink

end Client

/-- **Valid references import.** A reference lists direct addresses in a text; its pieces are what
stands between the commas. Whatever the text is:

* the check that a configuration is loaded with accepts the reference exactly if its addresses make
  a link, and else both stop at the same address for the same reason;
* the reference is accepted exactly if every piece that is not blank names an instance, and the link
  then has the instances that these pieces name, in their order;
* no reference of a configuration that passes its check fails to link for an address, and nothing
  could have been imported under one for which a configuration is refused. -/
theorem ReferenceConfig.valid_references_import {L W : Type} {reference : ReferenceConfig}
    {url : String} {pieces : List (List Char)} (given : reference.url = some url)
    (between : [','].intercalate pieces = url.toList) (present : pieces ≠ [])
    (clean : ∀ piece ∈ pieces, ',' ∉ piece) (service : String) :
    let named := pieces.filter fun piece => !piece.all Text.isWhite
    (reference.validate = .ok () ↔
      ∃ direct, DirectLocator.ofAddresses service reference.directUrls = .ok direct) ∧
    (∀ fault, reference.validate = .error fault →
      DirectLocator.ofAddresses service reference.directUrls = .error fault.refusal) ∧
    (reference.validate = .ok () ↔
      ∀ piece ∈ named, ∃ node, ServiceInstance.NamedBy service piece node) ∧
    (∀ direct, DirectLocator.ofAddresses service reference.directUrls = .ok direct →
      List.Forall₂ (ServiceInstance.NamedBy service) named direct.instances) ∧
    (∀ root, RootConfig.validate root = .ok () →
      root.reference? service = some reference → named ≠ [] →
      ∀ c : Client L W, ∃ linked, c.link service reference = .ok linked) ∧
    ∀ root fault, RootConfig.validate root = .error (.reference service fault) →
      root.reference? service = some reference →
      ∀ (c : Client L W) i after, ¬c.Imports service reference i after := by
  intro named
  have cut := Text.splitOn_eq_iff.mpr ⟨present, clean, between⟩
  refine ⟨validate_iff service, fun _ => ofAddresses_of_invalid service,
    validate_iff_forall_namedBy given cut service, fun _ => forall_namedBy given cut,
    fun root haccepted hlisted hsome c => ?_,
    fun root fault hrefused hlisted c i after himports => ?_⟩
  · have hvalid := RootConfig.validate_reference haccepted hlisted
    have hdirect : reference.directUrls ≠ [] := by
      rw [directUrls_eq given cut]
      exact fun hnil => hsome (List.map_eq_nil_iff.mp hnil)
    obtain ⟨instances, -, hlink⟩ := c.link_of_valid service hvalid hdirect
    exact ⟨_, hlink⟩
  · obtain ⟨refused, hsame, hinvalid⟩ := RootConfig.exists_reference_of_validate hrefused
    rw [hlisted] at hsame
    cases hsame
    rw [himports.validate_eq] at hinvalid
    cases hinvalid

/-- Addresses with white space around them, a blank piece, and a last piece with nothing in it. -/
def spacedReference : ReferenceConfig where
  url := some " left:80 ,\t,\u3000[::1]:+0443,"

/-- They are accepted, and the link has two instances. -/
theorem spaced_addresses_import :
    let pieces := [" left:80 ".toList, "\t".toList, "\u3000[::1]:+0443".toList, []]
    ([','].intercalate pieces = " left:80 ,\t,\u3000[::1]:+0443,".toList ∧ pieces ≠ [] ∧
      ∀ piece ∈ pieces, ',' ∉ piece) ∧
    spacedReference.validate = .ok () ∧
    ∃ direct, DirectLocator.ofAddresses "demo.Greeter" spacedReference.directUrls = .ok direct ∧
      List.Forall₂ (ServiceInstance.NamedBy "demo.Greeter")
        [" left:80 ".toList, "\u3000[::1]:+0443".toList] direct.instances := by
  intro pieces
  have between : [','].intercalate pieces = " left:80 ,\t,\u3000[::1]:+0443,".toList := by decide
  have present : pieces ≠ [] := List.cons_ne_nil _ _
  have clean : ∀ piece ∈ pieces, ',' ∉ piece := by decide
  have hvalid : spacedReference.validate = .ok () := by rfl
  obtain ⟨haccepted, -, -, hnamed, -⟩ := @ReferenceConfig.valid_references_import DirectLocator Unit
    spacedReference _ pieces rfl between present clean "demo.Greeter"
  obtain ⟨direct, hlink⟩ := haccepted.mp hvalid
  exact ⟨⟨between, present, clean⟩, hvalid, direct, hlink, hnamed direct hlink⟩

end RemoteCall
