/-
Two ways to read a context.

A look-up goes from the context to its parent, to the parent of that, and so on, and stops at the
first one that holds the key. A listing goes all the way, and then writes down the values of one
context after the other, from the farthest ancestor to the context itself. Neither asks the other.

* `Forest.Looks` — a look-up, step by step. `Forest.Ascends` (the way over all parents) is the
  listing's.
* `Forest.Nearest` — the nearest context on the way that holds a key.
* `Context.World.readings_agree` — in whatever state the contexts are, both walks come to an end,
  and both show what the nearest context holds.
-/
import RemoteCall.Proofs.Context.Grounded

namespace RemoteCall

namespace Forest

variable {f : Forest} {id holder : ContextId} {key : String} {way : List ContextId}

/-- A value of a nearer context is seen over those of its ancestors, in the table of all visible
values as in a look-up. -/
theorem getElem?_entries (f : Forest) (id : ContextId) (key : String) :
    (f.entries id)[key]? = f.get id key := by
  rw [entries, get]
  induction f.chain id with
  | nil => exact Std.ExtTreeMap.getElem?_empty
  | cons c farther ih =>
    rw [List.foldr_cons, Attributes.getElem?_extend, ih, List.findSome?_cons]
    cases (f.values c)[key]? <;> rfl

/-! ## The way over the parents -/

/-- There is one way over the parents. -/
theorem Ascends.unique {other : List ContextId} (h : f.Ascends id way)
    (hother : f.Ascends id other) : way = other := by
  induction h generalizing other with
  | root parent =>
    cases hother with
    | root => rfl
    | child parent' => rw [parent] at parent'; cases parent'
  | child parent _ ih =>
    cases hother with
    | root parent' => rw [parent] at parent'; cases parent'
    | child parent' rest' =>
      rw [parent] at parent'
      cases parent'
      rw [ih rest']

/-- Whoever starts in the middle of the way goes the rest of it. -/
theorem Ascends.suffix {nearer farther : List ContextId}
    (h : f.Ascends id (nearer ++ holder :: farther)) : f.Ascends holder (holder :: farther) := by
  induction nearer generalizing id with
  | nil =>
    cases h with
    | root parent => exact .root parent
    | child parent rest => exact .child parent rest
  | cons c nearer ih =>
    rw [List.cons_append] at h
    generalize htail : nearer ++ holder :: farther = tail at h
    cases h with
    | root => exact absurd htail (by simp)
    | child parent rest => exact ih (htail ▸ rest)

namespace Rooted

theorem ascends_chain (h : f.Rooted) (made : id < f.length) : f.Ascends id (f.chain id) := by
  have hknown : ∀ c ∈ List.range f.length, c < f.length := fun _ => List.mem_range.mp
  refine Forest.ascends_chain hknown (fun c hc p hp => ?_) (List.mem_range.mpr made)
  have hlt := h c p hp
  exact ⟨List.mem_range.mpr (Nat.lt_trans hlt (hknown c hc)), hlt⟩

/-- The way over the parents comes to an end, and it is the chain. -/
theorem ascends_iff (h : f.Rooted) (made : id < f.length) :
    f.Ascends id way ↔ way = f.chain id :=
  ⟨fun hway => hway.unique (h.ascends_chain made), fun heq => heq ▸ h.ascends_chain made⟩

/-- On the way identities go down, so it has no more contexts than there are that old. -/
theorem length_le_of_ascends (h : f.Rooted) (hway : f.Ascends id way) : way.length ≤ id + 1 := by
  induction hway with
  | root => exact Nat.succ_le_succ (Nat.zero_le _)
  | child parent _ ih => exact Nat.succ_le_succ (Nat.le_trans ih (h _ _ parent))

end Rooted

/-! ## Look-ups -/

/-- A look-up, step by step: it stops at a context that holds the key, and where no context is
left. -/
inductive Looks (f : Forest) (key : String) : Option ContextId → Option String → Prop where
  | out : Looks f key none none
  | hit {id : ContextId} {value : String} (held : (f.values id)[key]? = some value) :
    Looks f key (some id) (some value)
  | on {id : ContextId} {result : Option String} (missing : (f.values id)[key]? = none)
    (rest : Looks f key (f.parent? id) result) : Looks f key (some id) result

/-- No look-up has two results. -/
theorem Looks.unique {from? : Option ContextId} {result other : Option String}
    (h : f.Looks key from? result) (hother : f.Looks key from? other) : result = other := by
  induction h generalizing other with
  | out =>
    cases hother
    rfl
  | hit held =>
    cases hother with
    | hit held' => rw [← held, held']
    | on missing => rw [held] at missing; cases missing
  | on missing _ ih =>
    cases hother with
    | hit held => rw [missing] at held; cases held
    | on _ rest => exact ih rest

/-- A look-up goes along the way. -/
theorem Ascends.looks (h : f.Ascends id way) :
    f.Looks key (some id) (way.findSome? fun c => (f.values c)[key]?) := by
  induction h with
  | @root id parent =>
    cases hheld : (f.values id)[key]? with
    | some value => simpa [hheld] using Looks.hit hheld
    | none => simpa [hheld] using Looks.on hheld (parent ▸ Looks.out)
  | @child id p way parent _ ih =>
    cases hheld : (f.values id)[key]? with
    | some value => simpa [hheld] using Looks.hit hheld
    | none => simpa [hheld] using Looks.on hheld (parent ▸ ih)

/-- A look-up comes to an end, with the value that `get` gives. -/
theorem Rooted.looks_iff (h : f.Rooted) (made : id < f.length) {result : Option String} :
    f.Looks key (some id) result ↔ result = f.get id key := by
  have hlooks : f.Looks key (some id) (f.get id key) := (h.ascends_chain made).looks
  exact ⟨fun hresult => hresult.unique hlooks, fun heq => heq ▸ hlooks⟩

/-! ## The nearest holder -/

/-- The nearest context that holds a key, on the way from a context over its parents. -/
def Nearest (f : Forest) (key : String) (id holder : ContextId) : Prop :=
  ∃ nearer farther, f.Ascends id (nearer ++ holder :: farther) ∧
    key ∈ f.values holder ∧ ∀ c ∈ nearer, key ∉ f.values c

/-- What a look-up finds is held by the nearest holder. -/
theorem Rooted.get_eq_some_iff (h : f.Rooted) (made : id < f.length) {value : String} :
    f.get id key = some value ↔
      ∃ holder, f.Nearest key id holder ∧ (f.values holder)[key]? = some value := by
  rw [get, List.findSome?_eq_some_iff]
  constructor
  · rintro ⟨nearer, holder, farther, hchain, hheld, hmissing⟩
    refine ⟨holder, ⟨nearer, farther, hchain ▸ h.ascends_chain made, ?_, ?_⟩, hheld⟩
    · rw [Std.ExtTreeMap.mem_iff_isSome_getElem?, hheld, Option.isSome_some]
    · exact fun c hc => (getElem?_eq_none_iff _ _).mp (hmissing c hc)
  · rintro ⟨holder, ⟨nearer, farther, hway, -, hmissing⟩, hheld⟩
    refine ⟨nearer, holder, farther, ((h.ascends_iff made).mp hway).symm, hheld, fun c hc => ?_⟩
    exact (getElem?_eq_none_iff _ _).mpr (hmissing c hc)

end Forest

namespace Context

/-- **The two ways to read a context agree.** Let threads and futures make, close and enter contexts
and write to them, in any order, and take any context that was made. The way over its parents comes
to an end, so a listing does, which writes down what is on this way from its far end to the context.
A look-up comes to an end as well. The listing has a value under a key exactly if the look-up finds
it, and that is exactly if the nearest context that holds the key holds this value. -/
theorem World.readings_agree {w : World} (h : w.Reachable) {id : ContextId}
    (made : id < w.forest.length) (key : String) :
    let f := w.forest
    (∃ way, (∀ other, f.Ascends id other ↔ other = way) ∧ way.length ≤ id + 1 ∧
      f.entries id = way.reverse.foldl (fun visible c => visible.extend (f.values c)) ∅) ∧
    (∀ result, f.Looks key (some id) result ↔ result = f.get id key) ∧
    ∀ value, ((f.entries id)[key]? = some value ↔ f.get id key = some value) ∧
      (f.get id key = some value ↔
        ∃ holder, f.Nearest key id holder ∧ (f.values holder)[key]? = some value) := by
  intro f
  have hrooted : f.Rooted := h.rooted
  refine ⟨⟨f.chain id, fun other => hrooted.ascends_iff made, ?_, ?_⟩,
    fun result => hrooted.looks_iff made, fun value => ⟨?_, hrooted.get_eq_some_iff made⟩⟩
  · exact hrooted.length_le_of_ascends (hrooted.ascends_chain made)
  · rw [List.foldl_reverse]
    rfl
  · rw [f.getElem?_entries]

/-- Three contexts, each within the one before it and the last one on a thread of its own. Values
are overwritten, shadowed and removed again, and the middle one is closed. -/
def layered : List Deed :=
  [.step (.act 0 .create), .write 0 "tenant" (.put "acme"), .write 0 "region" (.put "eu"),
    .step (.act 0 .create), .write 1 "region" (.put "us"), .write 1 "tenant" (.put "guest"),
    .step (.act 1 (.enter 1 0)), .step (.act 1 .create), .write 2 "region" (.put "here"),
    .write 1 "region" (.putIfAbsent "there"), .write 2 "region" .remove,
    .write 1 "tenant" .remove, .step (.act 0 (.close 1)), .step (.poll 2 0),
    .step (.act 2 .create), .write 3 "tenant" (.putIfAbsent "other")]

/-- The innermost context holds nothing any more: the region is that of the middle one, and the
tenant that of the outermost. -/
theorem layered_readings_agree :
    ∃ w : World, w.Reachable ∧ 2 < w.forest.length ∧
      (∃ way, (∀ other, w.forest.Ascends 2 other ↔ other = way) ∧ way.length ≤ 3) ∧
      (w.forest.Looks "region" (some 2) (some "us") ∧ (w.forest.entries 2)["region"]? = some "us") ∧
      (w.forest.Looks "tenant" (some 2) (some "acme") ∧
        (w.forest.entries 2)["tenant"]? = some "acme") ∧
      ∃ holder, w.forest.Nearest "tenant" 2 holder ∧
        (w.forest.values holder)["tenant"]? = some "acme" := by
  obtain ⟨w, hrun, hmade, hregion, htenant⟩ : ∃ w,
      (World.start [] (fun _ => none) id).performAll layered = some w ∧ 2 < w.forest.length ∧
        w.forest.get 2 "region" = some "us" ∧ w.forest.get 2 "tenant" = some "acme" :=
    ⟨_, rfl, by decide, by decide, by decide⟩
  have hreachable : w.Reachable := ⟨id, layered, hrun⟩
  obtain ⟨⟨way, hway, hlength, -⟩, hregions, hlisted⟩ :=
    World.readings_agree hreachable hmade "region"
  obtain ⟨-, htenants, hshown⟩ := World.readings_agree hreachable hmade "tenant"
  exact ⟨w, hreachable, hmade, ⟨way, hway, hlength⟩,
    ⟨(hregions _).mpr hregion.symm, (hlisted "us").1.mpr hregion⟩,
    ⟨(htenants _).mpr htenant.symm, (hshown "acme").1.mpr htenant⟩,
    (hshown "acme").2.mp htenant⟩

end Context

end RemoteCall
