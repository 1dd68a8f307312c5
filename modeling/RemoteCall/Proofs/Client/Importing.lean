/-
What an import comes to.

A service is imported with the options of a reference and linked as the reference says. Of the
client an import changes nothing but the list of direct links, to which it may add one.
-/
import RemoteCall.Client.Import
import RemoteCall.Proofs.Service.Batch

namespace RemoteCall.Client

variable {L W : Type} {c after : Client L W} {name : String} {reference : ReferenceConfig}
  {i : Import} {typed : Bool}

theorem link_shared {link : Option Nat} {network : Network L W}
    (h : c.link name reference = .ok (link, network)) : network.shared = c.network.shared := by
  simp only [Client.link, bind, Except.bind, pure, Except.pure] at h
  split at h
  · split at h
    · cases h
      rfl
    · cases h
  · split at h
    · cases h
    · cases h
      rfl

/-- What an import without methods comes to: the link and the options of the reference. -/
theorem importBare_eq_ok (h : c.importBare name reference typed = .ok (i, after)) :
    c.link name reference = .ok (i.link, after.network) ∧
      after = { c with network := after.network } ∧
      Service.ofReference c.plugins name c.config reference = .ok i.service := by
  simp only [importBare, bind, Except.bind, pure, Except.pure] at h
  split at h
  · cases h
  · next hlink =>
    split at h
    · cases h
    · next hservice =>
      cases h
      exact ⟨hlink, rfl, hservice⟩

/-- A service was imported under a reference, with or without declared methods. -/
inductive Imports (c : Client L W) (name : String) (reference : ReferenceConfig) (i : Import)
    (after : Client L W) : Prop where
  | bare {typed : Bool} (imported : c.importBare name reference typed = .ok (i, after))
  | declared {methods : List MethodDescriptor}
    (imported : c.importTyped ⟨name, methods⟩ (some reference) = .ok (i, after))

/-- Declared methods are all that a typed import adds. -/
theorem Imports.eq_ok (h : c.Imports name reference i after) :
    c.link name reference = .ok (i.link, after.network) ∧
      after = { c with network := after.network } ∧
      ∃ service methods, Service.ofReference c.plugins name c.config reference = .ok service ∧
        i.service = service.withMethods methods := by
  cases h with
  | bare imported =>
    obtain ⟨hlink, hafter, hservice⟩ := importBare_eq_ok imported
    exact ⟨hlink, hafter, i.service, i.service.methods, hservice, rfl⟩
  | @declared methods imported =>
    simp only [importTyped, Option.getD_some, bind, Except.bind] at imported
    split at imported
    · cases imported
    · next pair himport =>
      obtain ⟨bare, linked⟩ := pair
      split at imported
      · cases imported
      · next service hregister =>
        cases imported
        obtain ⟨hlink, hafter, hservice⟩ := importBare_eq_ok himport
        have hframe := bare.service.registerAll_snd linked.plugins methods
        rw [show bare.service.registerAll linked.plugins methods = (.ok (), service)
          from hregister] at hframe
        exact ⟨hlink, hafter, bare.service, service.methods, hservice, hframe⟩

end RemoteCall.Client
