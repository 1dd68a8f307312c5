/-
Whom a write to a context concerns.

A write changes what one context holds under one key. Others see this only through that context: it
has to be on their way over the parents, and nothing nearer may hold the key. So a write cannot be
noticed by a parent or a sibling, and not by a descendant that has the key from somewhere nearer.

* `Forest.get_on_of_not_mem_chain` — a write to a context that is not on the way is not noticed.
* `Forest.Unshadowed` — nothing nearer holds the key, so a look-up gets as far as the context.
* `Context.World.writes_are_local` — who sees what after a write, in whatever state the contexts
  are.
-/
import RemoteCall.Proofs.Context.Readings

namespace RemoteCall

open Context (Write)

namespace Forest

variable {f g : Forest} {id c d : ContextId} {key name : String} {write : Write}

/-- What a context holds itself comes before what its parent shows. -/
theorem Rooted.get_eq_or (h : f.Rooted) (made : id < f.length) :
    f.get id key = ((f.values id)[key]?).or ((f.parent? id).bind (f.get · key)) := by
  rw [get, chain_eq_cons made (h id), List.findSome?_cons]
  cases (f.values id)[key]? with
  | some held => rfl
  | none => cases f.parent? id <;> rfl

/-! ## Who is on whose way -/

/-- Ancestors are older. -/
theorem Rooted.le_of_mem_ascends {way : List ContextId} (h : f.Rooted) (hway : f.Ascends id way) :
    ∀ c ∈ way, c ≤ id := by
  induction hway with
  | root => simp
  | child parent _ ih =>
    intro c hc
    rcases List.mem_cons.mp hc with rfl | hc
    · exact Nat.le_refl _
    · exact Nat.le_trans (ih c hc) (Nat.le_of_lt (h _ _ parent))

theorem Rooted.le_of_mem_chain (h : f.Rooted) (made : id < f.length) (hc : c ∈ f.chain id) :
    c ≤ id :=
  h.le_of_mem_ascends (h.ascends_chain made) c hc

/-- An ancestor does not come by its descendants. -/
theorem Rooted.not_mem_chain_of_ancestor (h : f.Rooted) (made : c < f.length)
    (ancestor : d ∈ f.chain c) (hne : d ≠ c) : c ∉ f.chain d := by
  intro hc
  have hle := h.le_of_mem_chain made ancestor
  exact hne (Nat.le_antisymm hle (h.le_of_mem_chain (Nat.lt_of_le_of_lt hle made) hc))

theorem Rooted.not_mem_chain_of_parent (h : f.Rooted) {p : ContextId}
    (parent : f.parent? c = some p) : c ∉ f.chain p := fun hc =>
  Nat.not_le.mpr (h c p parent) (h.le_of_mem_chain (h.has_parent? c p parent) hc)

/-- A context does not come by its siblings. -/
theorem Rooted.not_mem_chain_of_sibling (h : f.Rooted) (made : d < f.length)
    (sibling : f.parent? d = f.parent? c) (hne : d ≠ c) : c ∉ f.chain d := by
  rw [chain_eq_cons made (h d)]
  cases hparent : f.parent? d with
  | none => simpa using Ne.symm hne
  | some p =>
    rintro (_ | ⟨_, hc⟩)
    · exact hne rfl
    · exact h.not_mem_chain_of_parent (sibling ▸ hparent) hc

/-- Nobody comes by a context twice. -/
theorem Rooted.ne_of_nearer {nearer farther : List ContextId} (h : f.Rooted) (hd : d < f.length)
    (hway : f.Ascends d (nearer ++ c :: farther)) : ∀ x ∈ nearer, x ≠ c := by
  have hnodup := f.nodup_chain d
  rw [← (h.ascends_iff hd).mp hway] at hnodup
  exact fun x hx => (List.nodup_append.mp hnodup).2.2 x hx c List.mem_cons_self

/-! ## What is not noticed -/

/-- A write under another key is not noticed. -/
theorem get_on_of_ne (hne : name ≠ key) : (write.on f c key).2.get d name = f.get d name :=
  get_congr Write.chain_on fun _ _ => Write.getElem?_values_on_of_ne fun h => hne h.2

/-- A write to a context that is not on the way is not noticed. -/
theorem get_on_of_not_mem_chain (hnot : c ∉ f.chain d) :
    (write.on f c key).2.get d name = f.get d name :=
  get_congr Write.chain_on fun _ hx => Write.getElem?_values_on_of_ne fun h => hnot (h.1 ▸ hx)

/-! ## What is seen through a context -/

/-- A context is on the way, and nothing that is nearer holds the key. -/
def Unshadowed (f : Forest) (key : String) (id c : ContextId) : Prop :=
  ∃ nearer farther, f.Ascends id (nearer ++ c :: farther) ∧ ∀ x ∈ nearer, key ∉ f.values x

theorem nearest_iff : f.Nearest key d c ↔ f.Unshadowed key d c ∧ key ∈ f.values c := by
  constructor
  · rintro ⟨nearer, farther, hway, hheld, hmissing⟩
    exact ⟨⟨nearer, farther, hway, hmissing⟩, hheld⟩
  · rintro ⟨⟨nearer, farther, hway, hmissing⟩, hheld⟩
    exact ⟨nearer, farther, hway, hheld, hmissing⟩

/-- What is behind a context that nothing shadows is seen as from that context. -/
theorem Rooted.get_of_unshadowed (h : f.Rooted) (hd : d < f.length) (hc : c < f.length)
    (hseen : f.Unshadowed key d c) : f.get d key = f.get c key := by
  obtain ⟨nearer, farther, hway, hmissing⟩ := hseen
  have hnone : (nearer.findSome? fun x => (f.values x)[key]?) = none :=
    List.findSome?_eq_none_iff.mpr fun x hx => (getElem?_eq_none_iff _ _).mpr (hmissing x hx)
  rw [get, get, ← (h.ascends_iff hd).mp hway, ← (h.ascends_iff hc).mp hway.suffix,
    List.findSome?_append, hnone, Option.none_or]

/-! ## What is noticed -/

theorem ascends_congr {way : List ContextId} (same : ∀ id, g.parent? id = f.parent? id)
    (h : f.Ascends id way) : g.Ascends id way := by
  induction h with
  | root parent => exact .root ((same _).trans parent)
  | child parent _ ih => exact .child ((same _).trans parent) ih

/-- Whether a context is shadowed does not depend on what it holds itself. -/
theorem Rooted.unshadowed_on (h : f.Rooted) (hd : d < f.length) :
    (write.on f c key).2.Unshadowed key d c ↔ f.Unshadowed key d c := by
  have hsame : ∀ {x}, x ≠ c → (key ∉ (write.on f c key).2.values x ↔ key ∉ f.values x) := by
    intro x hne
    rw [← getElem?_eq_none_iff, ← getElem?_eq_none_iff,
      Write.getElem?_values_on_of_ne fun heq => hne heq.1]
  constructor
  · rintro ⟨nearer, farther, hway, hmissing⟩
    have hway' : f.Ascends d (nearer ++ c :: farther) :=
      ascends_congr (fun id => Write.parent?_on.symm) hway
    exact ⟨nearer, farther, hway',
      fun x hx => (hsame (h.ne_of_nearer hd hway' x hx)).mp (hmissing x hx)⟩
  · rintro ⟨nearer, farther, hway, hmissing⟩
    exact ⟨nearer, farther, ascends_congr (fun id => Write.parent?_on) hway,
      fun x hx => (hsame (h.ne_of_nearer hd hway x hx)).mpr (hmissing x hx)⟩

/-- If something nearer holds the key, a write behind it is not noticed. -/
theorem Rooted.get_on_of_shadowed (h : f.Rooted) (hd : d < f.length)
    (hseen : ¬ f.Unshadowed key d c) : (write.on f c key).2.get d key = f.get d key := by
  by_cases hmem : c ∈ f.chain d
  · obtain ⟨nearer, farther, hchain⟩ := List.append_of_mem hmem
    have hway : f.Ascends d (nearer ++ c :: farther) := hchain ▸ h.ascends_chain hd
    have hnearer : (nearer.findSome? fun x => ((write.on f c key).2.values x)[key]?) =
        nearer.findSome? fun x => (f.values x)[key]? := by
      refine findSome?_values_congr fun x hx => ?_
      exact Write.getElem?_values_on_of_ne fun heq => h.ne_of_nearer hd hway x hx heq.1
    rw [get, get, Write.chain_on, hchain, List.findSome?_append, List.findSome?_append, hnearer]
    cases hfound : nearer.findSome? fun x => (f.values x)[key]? with
    | some value => rfl
    | none =>
      refine absurd ⟨nearer, farther, hway, fun x hx => ?_⟩ hseen
      exact (getElem?_eq_none_iff _ _).mp (List.findSome?_eq_none_iff.mp hfound x hx)
  · exact get_on_of_not_mem_chain hmem

/-- Whoever sees as far as the context sees what the write left there, or what is behind it. -/
theorem Rooted.get_on_of_unshadowed (h : f.Rooted) (hc : c < f.length) (hd : d < f.length)
    (hseen : f.Unshadowed key d c) : (write.on f c key).2.get d key =
      (write.leaves (f.values c)[key]?).or ((f.parent? c).bind (f.get · key)) := by
  have hafter : (write.on f c key).2.Rooted := Context.rooted_on h write c key
  have hc' : c < (write.on f c key).2.length := Nat.lt_of_lt_of_eq hc Write.length_on.symm
  have hd' : d < (write.on f c key).2.length := Nat.lt_of_lt_of_eq hd Write.length_on.symm
  rw [hafter.get_of_unshadowed hd' hc' ((h.unshadowed_on hd).mpr hseen), hafter.get_eq_or hc',
    Write.getElem?_values_on hc, Write.parent?_on]
  cases hparent : f.parent? c with
  | none => rfl
  | some p =>
    rw [Option.bind_some, Option.bind_some,
      get_on_of_not_mem_chain (h.not_mem_chain_of_parent hparent)]

/-- Whether the nearest holder is the context, before a write or after it. -/
theorem Rooted.nearest_or_on (h : f.Rooted) (hc : c < f.length) (hd : d < f.length) :
    f.Nearest key d c ∨ (write.on f c key).2.Nearest key d c ↔
      f.Unshadowed key d c ∧
        ((f.values c)[key]? ≠ none ∨ write.leaves (f.values c)[key]? ≠ none) := by
  have hbefore : key ∈ f.values c ↔ (f.values c)[key]? ≠ none := by
    rw [ne_eq, getElem?_eq_none_iff, not_not]
  have hleaves : ((write.on f c key).2.values c)[key]? = write.leaves (f.values c)[key]? := by
    rw [Write.getElem?_values_on hc]
  have hafter : key ∈ (write.on f c key).2.values c ↔ write.leaves (f.values c)[key]? ≠ none := by
    rw [← hleaves, ne_eq, getElem?_eq_none_iff, not_not]
  rw [nearest_iff, nearest_iff, h.unshadowed_on hd, hbefore, hafter, and_or_left]

/-- Who has another nearest holder, before a write and after it, does not notice the write. -/
theorem Rooted.get_on_of_not_nearest (h : f.Rooted) (hc : c < f.length) (hd : d < f.length)
    (hnot : ¬ (f.Nearest key d c ∨ (write.on f c key).2.Nearest key d c)) :
    (write.on f c key).2.get d key = f.get d key := by
  by_cases hseen : f.Unshadowed key d c
  · rw [h.nearest_or_on hc hd, not_and_or, not_or, ne_eq, ne_eq, not_not, not_not] at hnot
    obtain ⟨hheld, hleaves⟩ := hnot.resolve_left (not_not.mpr hseen)
    rw [h.get_on_of_unshadowed hc hd hseen, h.get_of_unshadowed hd hc hseen, h.get_eq_or hc,
      hleaves, hheld]
  · exact h.get_on_of_shadowed hd hseen

end Forest

namespace Context

/-- What shows through a context after a write, if the context itself `held` something before, and
what is behind it shows something. -/
def Write.shows (held behind : Option String) : Write → Option String
  | put value => some value
  | putIfAbsent value => some (held.getD value)
  | remove => behind

theorem Write.leaves_or (held behind : Option String) (write : Write) :
    (write.leaves held).or behind = write.shows held behind := by
  cases write <;> rfl

namespace World

/-- **Writes are local.** Let threads and futures make, close and enter contexts and write to them,
in any order, and take any write to one of the contexts. It gives back what this context itself
held, and it changes no parents. Another context shows something else afterwards at most under the
key, and only if the context that was written to is its nearest holder before or after. Then it
shows what was put, or what a write that does not replace anything left in place, or, after a
removal, what the parent of the context shows. Ancestors and siblings show what they did. A context
that is made later shows what its parent does, and nobody notices it. -/
theorem writes_are_local {w : World} (h : w.Reachable) {c d : ContextId} (hc : c < w.forest.length)
    (hd : d < w.forest.length) (key name : String) (write : Write) :
    let f := w.forest
    let held := (f.values c)[key]?
    let after := (write.on f c key).2
    Reachable { w with forest := after } ∧
    (write.on f c key).1 = held ∧ (∀ id, after.parent? id = f.parent? id) ∧
    (name ≠ key ∨ ¬ (f.Nearest key d c ∨ after.Nearest key d c) →
      after.get d name = f.get d name) ∧
    (f.Nearest key d c ∨ after.Nearest key d c →
      after.get d key = write.shows held ((f.parent? c).bind (f.get · key))) ∧
    (∀ value, write = .putIfAbsent value → held ≠ none → after = f) ∧
    (d ≠ c → d ∈ f.chain c ∨ f.parent? d = f.parent? c → after.get d name = f.get d name) ∧
    ∀ parent, (after.add parent).get f.length name = parent.bind (after.get · name) ∧
      (after.add parent).get d name = after.get d name := by
  intro f held after
  have hrooted : f.Rooted := h.rooted
  refine ⟨h.write hc key write, Write.fst_on, fun id => Write.parent?_on, fun hother => ?_,
    fun hnearest => ?_, ?_, fun hne hrelative => ?_, fun parent => ⟨?_, ?_⟩⟩
  · by_cases hname : name = key
    · subst hname
      exact hrooted.get_on_of_not_nearest hc hd (hother.resolve_left (not_not.mpr rfl))
    · exact Forest.get_on_of_ne hname
  · rw [← Write.leaves_or]
    exact hrooted.get_on_of_unshadowed hc hd ((hrooted.nearest_or_on hc hd).mp hnearest).1
  · rintro value rfl hheld
    obtain ⟨old, hold⟩ := Option.ne_none_iff_exists'.mp hheld
    exact Write.putIfAbsent_of_held hold value
  · refine Forest.get_on_of_not_mem_chain ?_
    exact hrelative.elim (hrooted.not_mem_chain_of_ancestor hc · hne)
      (hrooted.not_mem_chain_of_sibling hd · hne)
  · have hnew := after.get_add parent name
    rwa [Write.length_on] at hnew
  · exact Forest.get_add_of_lt (Nat.lt_of_lt_of_eq hd Write.length_on.symm) parent name

end World

/-- A context with two children, the first of which has a child of its own. -/
def family : List Deed :=
  [.step (.act 0 .create), .write 0 "mood" (.put "calm"), .write 0 "user" (.put "host"),
    .step (.act 0 .create), .write 1 "mood" (.put "angry"), .step (.act 0 .create),
    .step (.act 0 (.close 2)), .step (.act 0 (.close 1)), .step (.act 0 .create),
    .write 3 "mood" (.put "sad")]

/-- What the family comes to, the last one first. -/
def relatives : Forest :=
  [⟨some 0, (∅ : Attributes).insert "mood" "sad"⟩, ⟨some 1, ∅⟩,
    ⟨some 0, (∅ : Attributes).insert "mood" "angry"⟩,
    ⟨none, ((∅ : Attributes).insert "mood" "calm").insert "user" "host"⟩]

/-- For the grandchild the root is not the nearest that has a mood. -/
theorem not_nearest_of_relatives {write : Write} :
    ¬ (relatives.Nearest "mood" 2 0 ∨ (write.on relatives 0 "mood").2.Nearest "mood" 2 0) := by
  have hnot : ∀ {f : Forest}, (∀ id, f.parent? id = relatives.parent? id) → "mood" ∈ f.values 1 →
      ¬ f.Nearest "mood" 2 0 := by
    rintro f hsame hheld ⟨nearer, farther, hway, -, hmissing⟩
    have hroot : f.Ascends 0 [0] := .root (hsame 0)
    have hfull : f.Ascends 2 [2, 1, 0] := .child (hsame 2) (.child (hsame 1) hroot)
    obtain ⟨-, rfl⟩ := List.cons.inj (hway.suffix.unique hroot)
    have hnearer : nearer = [2, 1] := List.append_cancel_right (hway.unique hfull)
    exact hmissing 1 (by simp [hnearer]) hheld
  have hheld : "mood" ∈ relatives.values 1 := by decide
  have hvalue : ((write.on relatives 0 "mood").2.values 1)["mood"]? = some "angry" :=
    Write.getElem?_values_on_of_ne (by decide)
  rintro (h | h)
  · exact hnot (fun _ => rfl) hheld h
  · exact hnot (fun _ => Write.parent?_on)
      (Std.ExtTreeMap.mem_iff_isSome_getElem?.mpr (by rw [hvalue]; rfl)) h

/-- The grandchild notices when its parent's mood goes and when its parent takes a user, although
there is one farther away. It does not notice the root's mood, and its parent's sibling notices
nothing. A mood that is there is not replaced. -/
theorem relatives_write_locally :
    ∃ w : World, w.Reachable ∧ w.forest = relatives ∧
      (Write.on relatives 1 "mood" .remove).1 = some "angry" ∧
      (Write.on relatives 1 "mood" .remove).2.get 2 "mood" = some "calm" ∧
      (Write.on relatives 1 "mood" .remove).2.get 3 "mood" = relatives.get 3 "mood" ∧
      (Write.on relatives 1 "user" (.putIfAbsent "guest")).2.get 2 "user" = some "guest" ∧
      (Write.on relatives 1 "user" (.putIfAbsent "guest")).2.get 0 "user" = relatives.get 0 "user" ∧
      (Write.on relatives 0 "mood" (.put "glad")).2.get 2 "mood" = relatives.get 2 "mood" ∧
      (Write.on relatives 1 "mood" (.putIfAbsent "glad")).2 = relatives := by
  obtain ⟨w, hrun, hforest⟩ : ∃ w,
      (World.start [] (fun _ => none) id).performAll family = some w ∧ w.forest = relatives :=
    ⟨_, rfl, rfl⟩
  have hreachable : w.Reachable := ⟨id, family, hrun⟩
  have hmade : ∀ c, c < 4 → c < w.forest.length := fun c hc => hforest ▸ hc
  have hlocal := fun c d (hc : c < 4) (hd : d < 4) key write =>
    World.writes_are_local hreachable (hmade c hc) (hmade d hd) key key write
  simp only [hforest] at hlocal
  have hmood : relatives.Nearest "mood" 2 1 :=
    ⟨[2], [0], .child rfl (.child rfl (.root rfl)), by decide, by decide⟩
  have huser : (Write.on relatives 1 "user" (.putIfAbsent "guest")).2.Nearest "user" 2 1 :=
    ⟨[2], [0], .child rfl (.child rfl (.root rfl)), by decide, by decide⟩
  obtain ⟨-, hgone, -, -, hcalm, -⟩ := hlocal 1 2 (by decide) (by decide) "mood" .remove
  obtain ⟨-, -, -, -, -, -, hsibling, -⟩ := hlocal 1 3 (by decide) (by decide) "mood" .remove
  obtain ⟨-, -, -, -, hguest, -⟩ :=
    hlocal 1 2 (by decide) (by decide) "user" (.putIfAbsent "guest")
  obtain ⟨-, -, -, -, -, -, hroot, -⟩ :=
    hlocal 1 0 (by decide) (by decide) "user" (.putIfAbsent "guest")
  obtain ⟨-, -, -, hglad, -⟩ := hlocal 0 2 (by decide) (by decide) "mood" (.put "glad")
  obtain ⟨-, -, -, -, -, hkept, -⟩ :=
    hlocal 1 2 (by decide) (by decide) "mood" (.putIfAbsent "glad")
  exact ⟨w, hreachable, hforest, hgone.trans (by decide), (hcalm (.inl hmood)).trans (by decide),
    hsibling (by decide) (.inr rfl), hguest (.inr huser), hroot (by decide) (.inl (by decide)),
    hglad (.inr not_nearest_of_relatives), hkept "glad" rfl (by decide)⟩

end Context

end RemoteCall
