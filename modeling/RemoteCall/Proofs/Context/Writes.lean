/-
What a write to a context changes.

There are three writes. Each of them changes one context at most, and what it holds under one key;
parents stay as they are. What a look-up finds depends on nothing but the parents and on what
contexts hold under its key.

* `Forest.get_congr` — all that a look-up sees.
* `Context.Write.leaves` — what a write leaves in place of what was held, and `Write.on_cases` —
  that it does nothing else.
-/
import RemoteCall.Proofs.Context.Nesting

namespace RemoteCall

/-! ## Contexts and updates -/

namespace Forest

variable {f : Forest} {id other : ContextId} {change : Attributes → Attributes}

theorem node?_isSome (h : id < f.length) : ∃ n, f.node? id = some n := by
  induction f with
  | nil => exact absurd h (Nat.not_lt_zero id)
  | cons n older ih =>
    rw [node?]
    split
    · exact ⟨n, rfl⟩
    · next hne => exact ih (Nat.lt_of_le_of_ne (Nat.le_of_lt_succ h) hne)

@[simp] theorem length_update : (f.update change id).length = f.length := by
  induction f with
  | nil => rfl
  | cons n older ih =>
    rw [update]
    split
    · rfl
    · exact congrArg Nat.succ ih

theorem node?_update : (f.update change id).node? other =
    if id = other then (f.node? other).map fun n => { n with values := change n.values }
    else f.node? other := by
  induction f with
  | nil => simp [update, node?]
  | cons n older ih =>
    by_cases hid : id = older.length
    · subst hid
      by_cases hother : other = older.length
      · subst hother
        simp [update, node?]
      · simp [update, node?, hother, Ne.symm hother]
    · by_cases hother : other = older.length
      · subst hother
        simp [update, node?, hid]
      · simp [update, node?, hid, hother, ih]

/-- An update changes no parents. -/
@[simp] theorem parent?_update : (f.update change id).parent? other = f.parent? other := by
  unfold parent?
  rw [node?_update]
  split
  · cases f.node? other <;> rfl
  · rfl

theorem chain_update : (f.update change id).chain other = f.chain other := by
  induction f generalizing other with
  | nil => rfl
  | cons n older ih =>
    by_cases hid : id = older.length
    · simp [update, chain, hid]
    · simp only [update, hid, if_false, chain, length_update, ih]

theorem values_update : (f.update change id).values other =
    if id = other then ((f.node? other).map fun n => change n.values).getD ∅
    else f.values other := by
  unfold values
  rw [node?_update]
  split
  · rw [Option.map_map]
    rfl
  · rfl

/-- Only a write under its own key changes what a context holds under a key. -/
theorem getElem?_values_update {key : String}
    (h : id = other → ∀ values, (change values)[key]? = values[key]?) :
    ((f.update change id).values other)[key]? = (f.values other)[key]? := by
  rw [values_update]
  split
  · next heq =>
    unfold values
    cases f.node? other with
    | none => rfl
    | some n => exact h heq n.values
  · rfl

/-! ### What a look-up sees -/

theorem values_add_of_ne (f : Forest) (parent : Option ContextId) (h : id ≠ f.length) :
    (f.add parent).values id = f.values id := by
  simp only [add, values, node?, if_neg h]

/-- What contexts hold under a key is all that a look-up sees of them. -/
theorem findSome?_values_congr {g : Forest} {key : String} {way : List ContextId}
    (alike : ∀ c ∈ way, (g.values c)[key]? = (f.values c)[key]?) :
    (way.findSome? fun c => (g.values c)[key]?) = way.findSome? fun c => (f.values c)[key]? := by
  induction way with
  | nil => rfl
  | cons c farther ih =>
    rw [List.findSome?_cons, List.findSome?_cons, alike c List.mem_cons_self,
      ih fun x hx => alike x (List.mem_cons_of_mem c hx)]

theorem get_congr {g : Forest} {key : String} (same : g.chain id = f.chain id)
    (alike : ∀ c ∈ f.chain id, (g.values c)[key]? = (f.values c)[key]?) :
    g.get id key = f.get id key := by
  rw [get, get, same]
  exact findSome?_values_congr alike

/-- Nobody notices a new context. -/
theorem get_add_of_lt (h : id < f.length) (parent : Option ContextId) (key : String) :
    (f.add parent).get id key = f.get id key := by
  refine get_congr (chain_add_of_ne f parent (Nat.ne_of_lt h)) fun c hc => ?_
  rw [values_add_of_ne f parent (Nat.ne_of_lt (lt_of_mem_chain hc))]

/-- Before it holds anything itself, a new context shows what its parent does. -/
theorem get_add (f : Forest) (parent : Option ContextId) (key : String) :
    (f.add parent).get f.length key = parent.bind (f.get · key) := by
  have hempty : ((f.add parent).values f.length)[key]? = none := by
    simp [add, values, node?]
  rw [get, chain_add, List.findSome?_cons, hempty]
  cases parent with
  | none => rfl
  | some p =>
    refine findSome?_values_congr fun c hc => ?_
    rw [values_add_of_ne f _ (Nat.ne_of_lt (lt_of_mem_chain hc))]

end Forest

namespace Context

/-! ## Writes -/

/-- What can be written to a context under a key. -/
inductive Write where
  | put (value : String)
  | putIfAbsent (value : String)
  | remove
deriving DecidableEq, Repr

namespace Write

variable {f : Forest} {id other : ContextId} {key name : String} {write : Write}

/-- Writes to a context; also what the context itself held before. -/
def on (f : Forest) (id : ContextId) (key : String) : Write → Option String × Forest
  | put value => f.put id key value
  | putIfAbsent value => f.putIfAbsent id key value
  | remove => f.remove id key

/-- What a context holds itself after a write, if it `held` something before. -/
def leaves (held : Option String) : Write → Option String
  | put value => some value
  | putIfAbsent value => some (held.getD value)
  | remove => none

/-- A write gives back what the context itself held. -/
theorem fst_on : (write.on f id key).1 = (f.values id)[key]? := by
  cases write with
  | put => rfl
  | remove => rfl
  | putIfAbsent value =>
    rw [on, Forest.putIfAbsent]
    split <;> simp_all

/-- What is held is not replaced by a value for its absence. -/
theorem putIfAbsent_of_held {held : String} (h : (f.values id)[key]? = some held) (value : String) :
    ((putIfAbsent value).on f id key).2 = f := by
  simp only [on, Forest.putIfAbsent, h]

/-- A write changes nothing, where the key is held and may not be replaced, or it updates one
context under one key. -/
theorem on_cases (f : Forest) (id : ContextId) (key : String) (write : Write) :
    ((write.on f id key).2 = f ∧ write.leaves (f.values id)[key]? = (f.values id)[key]?) ∨
      ∃ change, (write.on f id key).2 = f.update change id ∧ ∀ (values : Attributes) name,
        (change values)[name]? =
          if name = key then write.leaves (f.values id)[key]? else values[name]? := by
  cases write with
  | put value => exact .inr ⟨_, rfl, fun values name => Table.getElem?_insert_eq ..⟩
  | remove => exact .inr ⟨_, rfl, fun values name => Table.getElem?_erase_eq ..⟩
  | putIfAbsent value =>
    cases hheld : (f.values id)[key]? with
    | some held => exact .inl ⟨putIfAbsent_of_held hheld value, rfl⟩
    | none =>
      refine .inr ⟨(·.insert key value), by simp only [on, Forest.putIfAbsent, hheld], ?_⟩
      exact fun values name => Table.getElem?_insert_eq ..

@[simp] theorem length_on : (write.on f id key).2.length = f.length := by
  obtain ⟨heq, -⟩ | ⟨change, heq, -⟩ := on_cases f id key write
  · rw [heq]
  · rw [heq, Forest.length_update]

@[simp] theorem parent?_on : (write.on f id key).2.parent? other = f.parent? other := by
  obtain ⟨heq, -⟩ | ⟨change, heq, -⟩ := on_cases f id key write
  · rw [heq]
  · rw [heq, Forest.parent?_update]

@[simp] theorem chain_on : (write.on f id key).2.chain other = f.chain other := by
  obtain ⟨heq, -⟩ | ⟨change, heq, -⟩ := on_cases f id key write
  · rw [heq]
  · rw [heq, Forest.chain_update]

/-- Other contexts, and other keys, are not written to. -/
theorem getElem?_values_on_of_ne (h : ¬ (other = id ∧ name = key)) :
    ((write.on f id key).2.values other)[name]? = (f.values other)[name]? := by
  obtain ⟨heq, -⟩ | ⟨change, heq, hchange⟩ := on_cases f id key write
  · rw [heq]
  · rw [heq]
    refine Forest.getElem?_values_update fun hid values => ?_
    rw [hchange, if_neg fun hname => h ⟨hid.symm, hname⟩]

theorem getElem?_values_on (made : id < f.length) :
    ((write.on f id key).2.values id)[key]? = write.leaves (f.values id)[key]? := by
  obtain ⟨heq, hsame⟩ | ⟨change, heq, hchange⟩ := on_cases f id key write
  · rw [heq, hsame]
  · obtain ⟨n, hn⟩ := Forest.node?_isSome made
    rw [heq, Forest.values_update, if_pos rfl, hn, Option.map_some, Option.getD_some, hchange,
      if_pos rfl]

end Write

end Context

end RemoteCall
