/-
Contexts that change while someone reads them.

Whoever lists the visible values reads one context after the other, the farthest ancestor first,
and others may write in between. What the list has for a key need not have been visible at any
one time: a value that moves from a context to its parent in the meantime can be missed in both.
But every context was read at some moment, and its ancestors not after it (`Shown`). So changes
after the last of these moments have no say in it, and where nobody writes in between it is what
was visible at the start (`Shown.eq_get`).
-/
import RemoteCall.Proofs.Context.Writes

namespace RemoteCall

/-! ## Changes -/

namespace Context

/-- Something that is done to the contexts. -/
inductive Change where
  | put (id : ContextId) (key value : String)
  | putIfAbsent (id : ContextId) (key value : String)
  | remove (id : ContextId) (key : String)
  | create (parent : Option ContextId)
deriving DecidableEq, Repr

namespace Change

variable {f : Forest} {id : ContextId} {key : String} {change : Change}

def apply (f : Forest) : Change → Forest
  | put id key value => (f.put id key value).2
  | putIfAbsent id key value => (f.putIfAbsent id key value).2
  | remove id key => (f.remove id key).2
  | create parent => f.add parent

/-- The change is a write to a context, under a key. -/
def writes (id : ContextId) (key : String) : Change → Bool
  | put other name _ | putIfAbsent other name _ | remove other name => other == id && name == key
  | create _ => false

/-- A change makes a context, or it is a write. -/
theorem apply_cases (f : Forest) (change : Change) :
    (∃ parent, change.apply f = f.add parent) ∨
      ∃ id key write, change.apply f = (Write.on f id key write).2 ∧
        ∀ other name, change.writes other name = false → ¬ (other = id ∧ name = key) := by
  have hkey : ∀ {id other : ContextId} {key name : String},
      (id == other && key == name) = false → ¬ (other = id ∧ name = key) := by
    rintro id other key name h ⟨rfl, rfl⟩
    simp at h
  cases change with
  | put id key value => exact .inr ⟨id, key, .put value, rfl, fun _ _ => hkey⟩
  | putIfAbsent id key value => exact .inr ⟨id, key, .putIfAbsent value, rfl, fun _ _ => hkey⟩
  | remove id key => exact .inr ⟨id, key, .remove, rfl, fun _ _ => hkey⟩
  | create parent => exact .inl ⟨parent, rfl⟩

theorem length_le_apply (f : Forest) (change : Change) : f.length ≤ (change.apply f).length := by
  obtain ⟨parent, heq⟩ | ⟨updated, name, write, heq, -⟩ := apply_cases f change
  · rw [heq]
    exact Nat.le_succ _
  · exact Nat.le_of_eq (by rw [heq, Write.length_on])

/-- What has been made keeps its ancestors. -/
theorem chain_apply (h : id < f.length) : (change.apply f).chain id = f.chain id := by
  obtain ⟨parent, heq⟩ | ⟨updated, name, write, heq, -⟩ := apply_cases f change
  · rw [heq, Forest.chain_add_of_ne _ _ (Nat.ne_of_lt h)]
  · rw [heq, Write.chain_on]

theorem getElem?_values_apply (h : id < f.length) (hwrite : change.writes id key = false) :
    ((change.apply f).values id)[key]? = (f.values id)[key]? := by
  obtain ⟨parent, heq⟩ | ⟨updated, name, write, heq, hother⟩ := apply_cases f change
  · rw [heq, Forest.values_add_of_ne _ _ (Nat.ne_of_lt h)]
  · rw [heq, Write.getElem?_values_on_of_ne (hother id key hwrite)]

end Change

variable {f : Forest} {id : ContextId} {key : String} {changes : List Change} {n : Nat}

/-- The contexts after so many of the changes. -/
def moment (f : Forest) (changes : List Change) (n : Nat) : Forest :=
  (changes.take n).foldl Change.apply f

@[simp] theorem moment_zero : moment f changes 0 = f := by
  rw [moment, List.take_zero, List.foldl_nil]

theorem moment_succ (h : n < changes.length) :
    moment f changes (n + 1) = changes[n].apply (moment f changes n) := by
  rw [moment, List.take_succ_eq_append_getElem h, List.foldl_append]
  rfl

theorem moment_of_length_le (h : changes.length ≤ n) :
    moment f changes (n + 1) = moment f changes n := by
  rw [moment, moment, List.take_of_length_le h, List.take_of_length_le (Nat.le_succ_of_le h)]

theorem length_le_moment : f.length ≤ (moment f changes n).length := by
  induction n with
  | zero => exact Nat.le_of_eq (by rw [moment_zero])
  | succ n ih =>
    rcases Nat.lt_or_ge n changes.length with h | h
    · rw [moment_succ h]
      exact Nat.le_trans ih (Change.length_le_apply _ _)
    · rwa [moment_of_length_le h]

theorem chain_moment (h : id < f.length) : (moment f changes n).chain id = f.chain id := by
  induction n with
  | zero => rw [moment_zero]
  | succ n ih =>
    rcases Nat.lt_or_ge n changes.length with hn | hn
    · rw [moment_succ hn, Change.chain_apply (Nat.lt_of_lt_of_le h length_le_moment), ih]
    · rwa [moment_of_length_le hn]

theorem getElem?_values_moment (h : id < f.length)
    (unwritten : ∀ change ∈ changes.take n, change.writes id key = false) :
    ((moment f changes n).values id)[key]? = (f.values id)[key]? := by
  induction n with
  | zero => rw [moment_zero]
  | succ n ih =>
    rcases Nat.lt_or_ge n changes.length with hn | hn
    · rw [List.take_succ_eq_append_getElem hn] at unwritten
      have hbefore := fun change hmem => unwritten change (List.mem_append_left _ hmem)
      have hnow := unwritten changes[n] (List.mem_append_right _ (List.mem_singleton_self _))
      have hmade : id < (moment f changes n).length := Nat.lt_of_lt_of_le h length_le_moment
      rw [moment_succ hn, Change.getElem?_values_apply hmade hnow, ih hbefore]
    · rw [moment_of_length_le hn]
      refine ih fun change hmem => unwritten change ?_
      rwa [List.take_of_length_le (Nat.le_succ_of_le hn), ← List.take_of_length_le hn]

/-! ## Readings -/

/-- What contexts show of a key, nearest first: each of them was read at a moment of its own, the
farther ones not after the nearer, and the nearest of all after `n` changes. -/
inductive Shown (moments : Nat → Forest) (key : String) :
    List ContextId → Nat → Option String → Prop where
  | nothing (n : Nat) : Shown moments key [] n none
  | context {id : ContextId} {farther : List ContextId} {m n : Nat} {value : Option String}
    (before : Shown moments key farther m value) (later : m ≤ n) :
    Shown moments key (id :: farther) n ((((moments n).values id)[key]?).or value)

/-- If all moments are alike for a key, this is the value of the nearest context that has one. -/
theorem Shown.eq_findSome? {moments : Nat → Forest} {chain : List ContextId}
    {value : Option String} (h : Shown moments key chain n value)
    (alike : ∀ id ∈ chain, ∀ m ≤ n, ((moments m).values id)[key]? = (f.values id)[key]?) :
    value = chain.findSome? fun id => (f.values id)[key]? := by
  induction h with
  | nothing => rfl
  | @context id farther m n value before later ih =>
    have hrest : value = farther.findSome? fun id => (f.values id)[key]? :=
      ih fun id hid m' hm => alike id (List.mem_cons_of_mem _ hid) m' (Nat.le_trans hm later)
    rw [alike id (List.mem_cons_self ..) n (Nat.le_refl n), hrest, List.findSome?_cons]
    cases (f.values id)[key]? <;> rfl

/-- **What nobody writes shows as it was at the start.** -/
theorem Shown.eq_get {value : Option String} (h : Shown (moment f changes) key (f.chain id) n value)
    (unwritten : ∀ change ∈ changes.take n, ∀ c ∈ f.chain id, change.writes c key = false) :
    value = f.get id key := by
  refine h.eq_findSome? fun c hc m hm => ?_
  refine getElem?_values_moment (Forest.lt_of_mem_chain hc) fun change hchange => ?_
  exact unwritten change (List.take_subset_take_left changes hm hchange) c hc

end Context

end RemoteCall
