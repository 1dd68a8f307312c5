/-
Addresses that are read back.

An address is written as its host, a colon and a numeral of its port. The host may hold anything,
colons included, since the port stands behind the last one. Every text leads to one address at most,
and an address has many texts: white space around it does not count, nor do zeros or a plus sign in
front of the port. `Address.render` picks one of them.

* `Address.ofChars_eq_ok_iff` — a text is read as an address exactly if it is written as it.
* `ServiceInstance.addresses_read_back` — an instance is found again under its own address.
-/
import RemoteCall.Instance
import RemoteCall.Proofs.Text.Numerals
import RemoteCall.Proofs.Text.Pieces
import RemoteCall.Proofs.Text.Spelling

namespace RemoteCall

/-! ## Addresses -/

namespace Address

/-- A text is the host of an address, a colon and a numeral of its port. -/
def WrittenAs (a : Address) (text : List Char) : Prop :=
  ∃ digits, text = a.host.toList ++ ':' :: digits ∧ a.host ≠ "" ∧ Text.Denotes digits a.port.toNat

variable {a : Address} {text digits : List Char} {port : UInt16}

theorem port?_eq_ok_iff : port? digits = .ok port ↔ Text.Denotes digits port.toNat := by
  rw [port?]
  constructor
  · intro h
    cases hread : Text.natural? (UInt16.size - 1) digits with
    | error cause =>
      rw [hread] at h
      cases h
    | ok n =>
      rw [hread] at h
      cases h
      obtain ⟨hdenotes, hle⟩ := Text.natural?_eq_ok_iff.mp hread
      rwa [UInt16.toNat_ofNat_of_lt' (Nat.lt_of_le_pred (by decide) hle)]
  · intro h
    have hle : port.toNat ≤ UInt16.size - 1 := Nat.le_pred_of_lt port.toNat_lt
    rw [Text.natural?_eq_ok_iff.mpr ⟨h, hle⟩]
    exact congrArg Except.ok UInt16.ofNat_toNat

/-- There is no colon in a numeral, so the last colon of a text is the one in front of it. -/
theorem colon_not_mem_of_denotes {n : Nat} (h : Text.Denotes digits n) : ':' ∉ digits := by
  intro hcolon
  rcases Text.isDigit_of_mem_denotes h hcolon with h | h
  · exact absurd h (by decide)
  · exact absurd h (by decide)

theorem ofChars_eq_ok_iff : ofChars text = .ok a ↔ a.WrittenAs text := by
  constructor
  · intro h
    rw [ofChars] at h
    cases hsplit : Text.splitLast? ':' text with
    | none =>
      rw [hsplit] at h
      cases h
    | some parts =>
      obtain ⟨host, digits⟩ := parts
      simp only [hsplit] at h
      split at h
      · cases h
      · next hhost =>
        split at h
        · next port hport =>
          cases h
          refine ⟨digits, ?_, fun hnone => hhost ?_, port?_eq_ok_iff.mp hport⟩
          · rw [String.toList_ofList]
            exact (Text.splitLast?_eq_some_iff.mp hsplit).1
          · exact String.ofList_eq_empty_iff.mp hnone
        · cases h
  · rintro ⟨digits, rfl, hhost, hport⟩
    have hhost : a.host.toList ≠ [] := fun hnil => hhost (String.toList_eq_nil_iff.mp hnil)
    rw [ofChars, Text.splitLast?_append _ (colon_not_mem_of_denotes hport)]
    simp only [hhost, if_false, port?_eq_ok_iff.mpr hport, String.ofList_toList]

/-- What an address is printed as is one of its texts. -/
theorem writtenAs_render (h : a.host ≠ "") : a.WrittenAs a.render.toList := by
  refine ⟨Nat.toDigits 10 a.port.toNat, ?_, h, Text.denotes_toDigits _⟩
  have hport : (toString a.port).toList = Nat.toDigits 10 a.port.toNat := Nat.toList_repr
  rw [render, String.toList_append, String.toList_append, hport, List.append_assoc]
  rfl

variable {c : Char}

theorem WrittenAs.host_ne_empty (h : a.WrittenAs text) : a.host ≠ "" := by
  obtain ⟨-, -, hhost, -⟩ := h
  exact hhost

/-- A text of an address begins as its host does. -/
theorem WrittenAs.head?_eq (h : a.WrittenAs text) : text.head? = a.host.toList.head? := by
  obtain ⟨digits, rfl, hhost, -⟩ := h
  have hhost : a.host.toList ≠ [] := fun hnil => hhost (String.toList_eq_nil_iff.mp hnil)
  exact List.head?_append_of_ne_nil _ hhost

/-- A text of an address ends with a digit, so there is no white space at its end. -/
theorem WrittenAs.isWhite_of_mem_getLast? (h : a.WrittenAs text) (hc : c ∈ text.getLast?) :
    Text.isWhite c = false := by
  obtain ⟨digits, rfl, -, hport⟩ := h
  rw [Option.mem_def, List.getLast?_append, List.getLast?_cons_of_ne_nil hport.ne_nil,
    List.getLast?_eq_some_getLast hport.ne_nil] at hc
  cases hc
  rcases Text.isDigit_of_mem_denotes hport (List.getLast_mem hport.ne_nil) with hplus | hdigit
  · rw [hplus]
    rfl
  · exact Text.isWhite_of_isDigit hdigit

/-- A text of an address has no white space around it if its host has none in front. -/
theorem WrittenAs.trimChars_eq (h : a.WrittenAs text)
    (solid : ∀ c ∈ a.host.toList.head?, Text.isWhite c = false) : Text.trimChars text = text :=
  Text.trimChars_of_ends (h.head?_eq ▸ solid) fun _ => h.isWhite_of_mem_getLast?

/-- In front of a host that is read from a trimmed text there is no white space. -/
theorem WrittenAs.not_isWhite_host (h : a.WrittenAs (Text.trimChars text)) :
    ∀ c ∈ a.host.toList.head?, Text.isWhite c = false :=
  fun _ hc => Text.isWhite_of_mem_head?_trimChars (h.head?_eq.trans hc)

end Address

/-! ## Instances -/

namespace ServiceInstance

variable {service text host : String} {port : UInt16} {node : ServiceInstance}

/-- A text leads to an instance exactly if, trimmed, it is a text of the instance's address. -/
theorem ofAddress_eq_ok_iff : ofAddress service text = .ok node ↔
    (Address.mk node.host node.port).WrittenAs (Text.trimChars text.toList) ∧
      node = ofHostPort service node.host node.port := by
  rw [ofAddress]
  constructor
  · intro h
    split at h
    · next a ha =>
      cases h
      exact ⟨Address.ofChars_eq_ok_iff.mp ha, rfl⟩
    · cases h
  · rintro ⟨hwritten, hnode⟩
    rw [Address.ofChars_eq_ok_iff.mpr hwritten, hnode]
    rfl

/-- An instance is found under its address if its host has no white space in front, and only
then. -/
theorem ofAddress_address_iff {before after : String} (hbefore : Text.isBlank before = true)
    (hafter : Text.isBlank after = true) :
    ofAddress service (before ++ (ofHostPort service host port).address ++ after) =
        .ok (ofHostPort service host port) ↔
      host ≠ "" ∧ ∀ c ∈ host.toList.head?, Text.isWhite c = false := by
  have htrim : Text.trimChars (before ++ (ofHostPort service host port).address ++ after).toList =
      Text.trimChars (Address.mk host port).render.toList := by
    rw [String.toList_append, String.toList_append]
    exact Text.trimChars_append (List.all_eq_true.mp hbefore) (List.all_eq_true.mp hafter) _
  rw [ofAddress_eq_ok_iff, htrim]
  constructor
  · rintro ⟨hwritten, -⟩
    exact ⟨hwritten.host_ne_empty, hwritten.not_isWhite_host⟩
  · rintro ⟨hhost, hsolid⟩
    have hwritten := Address.writtenAs_render (a := ⟨host, port⟩) hhost
    rw [hwritten.trimChars_eq hsolid]
    exact ⟨hwritten, rfl⟩

/-- **Addresses are read back.** For every service, host and port:

* an instance is found again under its own address, with any white space around it, if its host is
  not empty and has no white space in front, and only then; it has the same code, service, host and
  port, and no metadata;
* every text that leads to an instance has an address of that instance as its normal form: this
  address leads to the very same instance. -/
theorem addresses_read_back :
    (∀ (service host : String) (port : UInt16) (before after : String),
      Text.isBlank before = true → Text.isBlank after = true →
      (ofAddress service (before ++ (ofHostPort service host port).address ++ after) =
          .ok (ofHostPort service host port) ↔
        host ≠ "" ∧ ∀ c ∈ host.toList.head?, Text.isWhite c = false)) ∧
    ∀ (service text : String) (node : ServiceInstance), ofAddress service text = .ok node →
      node = ofHostPort service node.host node.port ∧
        ofAddress service node.address = .ok node := by
  refine ⟨fun service host port before after => ofAddress_address_iff, ?_⟩
  intro service text node h
  obtain ⟨hwritten, hnode⟩ := ofAddress_eq_ok_iff.mp h
  refine ⟨hnode, ?_⟩
  have hrendered := Address.writtenAs_render hwritten.host_ne_empty
  refine ofAddress_eq_ok_iff.mpr ⟨?_, hnode⟩
  rw [address, hrendered.trimChars_eq hwritten.not_isWhite_host]
  exact hrendered

/-- A host of colons between white space; a host with a blank in it, and a port behind zeros and a
sign. -/
theorem loopback_is_read_back :
    (Text.isBlank "\t" = true ∧ Text.isBlank "\u3000 " = true ∧
      ofAddress "svc" ("\t" ++ (ofHostPort "svc" "::1" 8001).address ++ "\u3000 ") =
        .ok (ofHostPort "svc" "::1" 8001)) ∧
    ofAddress "svc" " fe80:: 1:+0080\n" = .ok (ofHostPort "svc" "fe80:: 1" 80) ∧
      ofAddress "svc" "fe80:: 1:80" = .ok (ofHostPort "svc" "fe80:: 1" 80) := by
  obtain ⟨hfound, hnormal⟩ := addresses_read_back
  have hfirst : ofAddress "svc" " fe80:: 1:+0080\n" = .ok (ofHostPort "svc" "fe80:: 1" 80) := by rfl
  have htab : Text.isBlank "\t" = true := by decide
  have hblank : Text.isBlank "\u3000 " = true := by decide
  have hsolid : ∀ c ∈ "::1".toList.head?, Text.isWhite c = false := by
    rintro c ⟨⟩
    rfl
  have hloopback := (hfound "svc" "::1" 8001 "\t" "\u3000 " htab hblank).mpr ⟨by decide, hsolid⟩
  exact ⟨⟨htab, hblank, hloopback⟩, hfirst, (hnormal "svc" _ _ hfirst).2⟩

end ServiceInstance

end RemoteCall
