/-
The active context of a thread is the top of a stack.

Nothing keeps such a stack. A thread has one pointer, and a context knows its parent;
contexts may be closed in any order, more than once, or never. An `Account` of the moves of a
thread says which contexts it made, and which of them were active when they were closed: only
these closings had an effect.

* `Contexts.Stacked` — the active context and its ancestors are the contexts that were made
  and not closed with effect, latest first. Every move keeps this.
* `Contexts.WellNested.active` — moves that are nested like brackets lead back to the context
  that was active before.
* `View.active_exit` — a guard brings back what was active before it was taken, whatever has
  happened since.
* `active_context_is_a_stack` — all of it.
-/
import RemoteCall.Proofs.Context.Threads

namespace RemoteCall

/-! ## Chains of parents -/

namespace Forest

variable {f : Forest} {id other : ContextId}

theorem parent?_add_of_ne (f : Forest) (parent : Option ContextId) (h : id ≠ f.length) :
    (f.add parent).parent? id = f.parent? id := by
  simp only [add, parent?, node?, if_neg h]

theorem chain_add_of_ne (f : Forest) (parent : Option ContextId) (h : id ≠ f.length) :
    (f.add parent).chain id = f.chain id := by
  simp only [add, chain, if_neg h]

theorem chain_add (f : Forest) (parent : Option ContextId) :
    (f.add parent).chain f.length = f.length :: (parent.map f.chain).getD [] := by
  cases parent <;> simp [add, chain]

/-- What is on a chain was made. -/
theorem lt_of_mem_chain (h : other ∈ f.chain id) : other < f.length := by
  induction f generalizing id with
  | nil => simp [chain] at h
  | cons n older ih =>
    rw [chain] at h
    split at h
    · next heq =>
      rcases List.mem_cons.mp h with rfl | h
      · exact heq ▸ Nat.lt_succ_self _
      · cases hp : n.parent with
        | none => simp [hp] at h
        | some p =>
          have hfarther : other ∈ chain older p := by simpa [hp] using h
          exact Nat.lt_succ_of_lt (ih hfarther)
    · exact Nat.lt_succ_of_lt (ih h)

theorem nodup_chain (f : Forest) (id : ContextId) : (f.chain id).Nodup := by
  induction f generalizing id with
  | nil => exact List.nodup_nil
  | cons n older ih =>
    rw [chain]
    split
    · next heq =>
      cases n.parent with
      | none => simp
      | some p =>
        refine List.nodup_cons.mpr ⟨fun h => ?_, ih p⟩
        exact Nat.lt_irrefl _ (heq ▸ lt_of_mem_chain h)
    · exact ih id

/-- A context with an older parent comes right before the chain of the parent. -/
theorem chain_eq_cons (h : id < f.length) (older : ∀ p, f.parent? id = some p → p < id) :
    f.chain id = id :: ((f.parent? id).map f.chain).getD [] := by
  induction f with
  | nil => cases h
  | cons n rest ih =>
    by_cases heq : id = rest.length
    · have hparent : parent? (n :: rest) id = n.parent := by simp [parent?, node?, heq]
      rw [hparent] at older ⊢
      cases hp : n.parent with
      | none => simp [chain, heq, hp]
      | some p =>
        have hne : p ≠ rest.length := heq ▸ Nat.ne_of_lt (older p hp)
        simp [chain, heq, hp, hne]
    · have hparent : parent? (n :: rest) id = parent? rest id := by simp [parent?, node?, heq]
      have hlt : id < rest.length := Nat.lt_of_le_of_ne (Nat.le_of_lt_succ h) heq
      rw [hparent] at older ⊢
      have hrest := ih hlt older
      cases hp : parent? rest id with
      | none => simpa [chain, heq, hp] using hrest
      | some p =>
        have hne : p ≠ rest.length := Nat.ne_of_lt (Nat.lt_trans (older p hp) hlt)
        simpa [chain, heq, hp, hne] using hrest

/-- The way from a context over its parents to one that has none. -/
inductive Ascends (f : Forest) : ContextId → List ContextId → Prop where
  | root {id : ContextId} (parent : f.parent? id = none) : Ascends f id [id]
  | child {id p : ContextId} {way : List ContextId} (parent : f.parent? id = some p)
    (rest : Ascends f p way) : Ascends f id (id :: way)

/-- If parents are older than their children, the way up comes to an end, and it is the chain. -/
theorem ascends_chain {made : List ContextId} (known : ∀ id ∈ made, id < f.length)
    (older : ∀ id ∈ made, ∀ p, f.parent? id = some p → p ∈ made ∧ p < id) (h : id ∈ made) :
    f.Ascends id (f.chain id) := by
  -- identities go down from a context to its parent
  induction id using Nat.strongRecOn with
  | ind id ih =>
    rw [chain_eq_cons (known id h) fun p hp => (older id h p hp).2]
    cases hp : f.parent? id with
    | none => exact .root hp
    | some p =>
      obtain ⟨hmade, hlt⟩ := older id h p hp
      exact .child hp (ih p hlt hmade)

end Forest

/-! ## Moves of a thread -/

/-- What happens to the contexts of a thread. -/
inductive Move where
  | create
  | close (id : ContextId)
  /-- Another thread makes a context. -/
  | elsewhere (parent : Option ContextId)
deriving DecidableEq, Repr

/-- The contexts that a thread made, and those of them that it closed with effect, latest
first. -/
structure Account where
  created : List ContextId := []
  closed : List ContextId := []

/-- The contexts that were made and not closed with effect, latest first. -/
def Account.open (a : Account) : List ContextId :=
  a.created.filter (· ∉ a.closed)

namespace Contexts

variable {c : Contexts} {a : Account} {id : ContextId} {moves : List Move}

def move (c : Contexts) : Move → Contexts
  | .create => c.create.2
  | .close id => c.close id
  | .elsewhere parent => { c with forest := c.forest.add parent }

/-- Moves one after the other. -/
def run (c : Contexts) (moves : List Move) : Contexts := moves.foldl move c

/-- What a move adds to an account. A close has an effect only on the active context. -/
def note (c : Contexts) (a : Account) : Move → Account
  | .create => { a with created := c.create.1 :: a.created }
  | .close id => if c.active = some id then { a with closed := id :: a.closed } else a
  | .elsewhere _ => a

/-- The account that moves come to when they go on from another account. -/
def accountFrom (c : Contexts) (a : Account) : List Move → Account
  | [] => a
  | move :: moves => accountFrom (c.move move) (c.note a move) moves

/-- The account of moves. -/
def account (c : Contexts) (moves : List Move) : Account := c.accountFrom {} moves

/-- The active context and its ancestors, nearest first. -/
def lineage (c : Contexts) : List ContextId :=
  (c.active.map c.forest.chain).getD []

theorem run_append (c : Contexts) (moves more : List Move) :
    c.run (moves ++ more) = (c.run moves).run more :=
  List.foldl_append

/-- What is closed stays closed. -/
theorem mem_closed_accountFrom (h : id ∈ a.closed) (c : Contexts) (moves : List Move) :
    id ∈ (c.accountFrom a moves).closed := by
  induction moves generalizing c a with
  | nil => exact h
  | cons move moves ih =>
    refine ih ?_ _
    cases move with
    | create => exact h
    | elsewhere => exact h
    | close other =>
      rw [note]
      split
      · exact List.mem_cons_of_mem _ h
      · exact h

/-- A close of a context that is not active does nothing. -/
theorem close_of_ne (h : c.active ≠ some id) : c.close id = c := by
  rw [close, if_neg h]

/-! ### The stack -/

/-- The account says what the active context and its ancestors are. -/
structure Stacked (c : Contexts) (a : Account) : Prop where
  lineage : c.lineage = a.open
  active : ∀ id, c.active = some id → id ∈ a.created
  known : ∀ id ∈ a.created, id < c.forest.length
  older : ∀ id ∈ a.created, ∀ p, c.forest.parent? id = some p → p ∈ a.created ∧ p < id
  closed : ∀ id ∈ a.closed, id ∈ a.created
  latest : a.created.Pairwise (· > ·)

namespace Stacked

/-- A thread starts without an active context. -/
theorem start (f : Forest) : Stacked { forest := f } {} where
  lineage := rfl
  active := by simp
  known := by simp
  older := by simp
  closed := by simp
  latest := List.Pairwise.nil

/-- What is open was made in that order. -/
theorem latest_open (h : Stacked c a) : a.open.Pairwise (· > ·) := h.latest.filter _

theorem nodup_open (h : Stacked c a) : a.open.Nodup := h.latest_open.imp Nat.ne_of_gt

/-- A new context is on top. -/
theorem create (h : Stacked c a) :
    Stacked c.create.2 { a with created := c.create.1 :: a.created } := by
  have hnew : c.forest.length ∉ a.created := fun hmem => Nat.lt_irrefl _ (h.known _ hmem)
  constructor
  case lineage =>
    have hopen : c.forest.length ∉ a.closed := fun hmem => hnew (h.closed _ hmem)
    have htop : c.create.2.lineage = c.forest.length :: c.lineage := c.forest.chain_add c.active
    rw [htop, h.lineage]
    simp [Account.open, Contexts.create, hopen]
  case active =>
    rintro id ⟨⟩
    exact List.mem_cons_self
  case known =>
    intro id hid
    rcases List.mem_cons.mp hid with rfl | hid
    · exact Nat.lt_succ_self _
    · exact Nat.lt_succ_of_lt (h.known id hid)
  case older =>
    intro id hid p hp
    rcases List.mem_cons.mp hid with rfl | hid
    · have hactive : c.active = some p := by simpa [Contexts.create] using hp
      have hmade := h.active p hactive
      exact ⟨List.mem_cons_of_mem _ hmade, h.known p hmade⟩
    · have hne := Nat.ne_of_lt (h.known id hid)
      rw [Contexts.create, Forest.parent?_add_of_ne _ _ hne] at hp
      exact (h.older id hid p hp).imp_left (List.mem_cons_of_mem _)
  case closed => exact fun id hid => List.mem_cons_of_mem _ (h.closed id hid)
  case latest => exact List.pairwise_cons.mpr ⟨h.known, h.latest⟩

/-- The active context gives way to its parent, which is what is below it. -/
theorem close (h : Stacked c a) (hactive : c.active = some id) :
    Stacked (c.close id) { a with closed := id :: a.closed } := by
  have hclose : c.close id = { c with active := c.forest.parent? id } := if_pos hactive
  have hmade := h.active id hactive
  have hbelow : c.lineage = id :: (c.close id).lineage := by
    rw [hclose, Contexts.lineage, hactive]
    exact Forest.chain_eq_cons (h.known id hmade) fun p hp => (h.older id hmade p hp).2
  have htop := h.lineage.symm.trans hbelow
  constructor
  case lineage =>
    have hnodup : (id :: (c.close id).lineage).Nodup := htop ▸ h.nodup_open
    have hnot := (List.nodup_cons.mp hnodup).1
    have hfilter : ({ a with closed := id :: a.closed } : Account).open =
        a.open.filter (· ≠ id) := by
      simp [Account.open, List.filter_filter]
    rw [hfilter, htop, List.filter_cons_of_neg (by simp), List.filter_eq_self.mpr]
    intro other hother
    simpa using fun heq : other = id => hnot (heq ▸ hother)
  case active =>
    rw [hclose]
    exact fun p hp => (h.older id hmade p hp).1
  case known =>
    rw [hclose]
    exact h.known
  case older =>
    rw [hclose]
    exact h.older
  case closed =>
    intro other hother
    rcases List.mem_cons.mp hother with rfl | hother
    · exact hmade
    · exact h.closed other hother
  case latest => exact h.latest

/-- What other threads make is on no chain of this one. -/
theorem elsewhere (h : Stacked c a) (parent : Option ContextId) :
    Stacked { c with forest := c.forest.add parent } a where
  lineage := by
    rw [← h.lineage, Contexts.lineage, Contexts.lineage]
    cases hactive : c.active with
    | none => rfl
    | some id =>
      exact Forest.chain_add_of_ne _ _ (Nat.ne_of_lt (h.known id (h.active id hactive)))
  active := h.active
  known id hid := Nat.lt_succ_of_lt (h.known id hid)
  older id hid p hp := by
    rw [Forest.parent?_add_of_ne _ _ (Nat.ne_of_lt (h.known id hid))] at hp
    exact h.older id hid p hp
  closed := h.closed
  latest := h.latest

/-- Every move keeps the stack. -/
theorem move (h : Stacked c a) (move : Move) : Stacked (c.move move) (c.note a move) := by
  cases move with
  | create => exact h.create
  | elsewhere parent => exact h.elsewhere parent
  | close id =>
    by_cases hactive : c.active = some id
    · rw [note, if_pos hactive]
      exact h.close hactive
    · rw [note, if_neg hactive, Contexts.move, close_of_ne hactive]
      exact h

theorem run (h : Stacked c a) (moves : List Move) :
    Stacked (c.run moves) (c.accountFrom a moves) := by
  induction moves generalizing c a with
  | nil => exact h
  | cons move moves ih => exact ih (h.move move)

/-- What was closed with effect is not active. -/
theorem ne_of_mem_closed (h : Stacked c a) (hclosed : id ∈ a.closed) : c.active ≠ some id := by
  intro hactive
  have hmade := h.active id hactive
  have htop : id ∈ c.lineage := by
    rw [Contexts.lineage, hactive, Option.map_some, Option.getD_some,
      Forest.chain_eq_cons (h.known id hmade) fun p hp => (h.older id hmade p hp).2]
    exact List.mem_cons_self
  have hopen : id ∈ a.open := h.lineage ▸ htop
  exact of_decide_eq_true (List.mem_filter.mp hopen).2 hclosed

end Stacked

/-! ### Nested moves -/

/-- Moves in which every context is closed again, after all that were made inside of it, as a
scope does when it is dropped. Before the moves `n` contexts were made, and after them `m`. -/
inductive WellNested : Nat → List Move → Nat → Prop where
  | nothing (n : Nat) : WellNested n [] n
  | elsewhere {n m : Nat} {parent : Option ContextId} {rest : List Move}
    (after : WellNested (n + 1) rest m) : WellNested n (.elsewhere parent :: rest) m
  | block {n inner m : Nat} {body rest : List Move} (inside : WellNested (n + 1) body inner)
    (after : WellNested inner rest m) : WellNested n (.create :: (body ++ .close n :: rest)) m

/-- The moves leave the pointer as it was, and the parents of the contexts that were there. -/
theorem WellNested.frame {n m : Nat} (h : WellNested n moves m) :
    ∀ c : Contexts, c.forest.length = n → (c.run moves).active = c.active ∧
      (c.run moves).forest.length = m ∧ n ≤ m ∧
      ∀ id < n, (c.run moves).forest.parent? id = c.forest.parent? id := by
  induction h with
  | nothing n => exact fun c hn => ⟨rfl, hn, Nat.le_refl n, fun _ _ => rfl⟩
  | @elsewhere n m parent rest _ ih =>
    intro c hn
    obtain ⟨hactive, hlength, hle, hparent⟩ :=
      ih (c.move (.elsewhere parent)) (congrArg Nat.succ hn)
    refine ⟨hactive, hlength, Nat.le_of_succ_le hle, fun id hid => ?_⟩
    exact (hparent id (Nat.lt_succ_of_lt hid)).trans
      (Forest.parent?_add_of_ne _ _ (hn ▸ Nat.ne_of_lt hid))
  | @block n inner m body rest _ _ ihinside ihafter =>
    intro c hn
    obtain ⟨hactive, hlength, hle, hparent⟩ :=
      ihinside c.create.2 (congrArg Nat.succ hn)
    -- the context is still active after the body, and its parent is what was active before
    have hclosed : ((c.create.2.run body).close n).active = c.active := by
      rw [close, if_pos (hactive.trans (congrArg some hn))]
      have hn' := hparent n (Nat.lt_succ_self n)
      rw [← hn] at hn' ⊢
      exact hn'.trans (Forest.parent?_add ..)
    have hforest : ((c.create.2.run body).close n).forest = (c.create.2.run body).forest := by
      rw [close]
      split <;> rfl
    obtain ⟨hactive', hlength', hle', hparent'⟩ :=
      ihafter ((c.create.2.run body).close n) (hforest ▸ hlength)
    have hrun : c.run (.create :: (body ++ .close n :: rest)) =
        ((c.create.2.run body).close n).run rest :=
      run_append c.create.2 body (.close n :: rest)
    rw [hrun]
    refine ⟨hactive'.trans hclosed, hlength', by omega, fun id hid => ?_⟩
    rw [hparent' id (by omega), hforest, hparent id (by omega)]
    exact Forest.parent?_add_of_ne _ _ (hn ▸ Nat.ne_of_lt hid)

/-- **Nested moves leave the pointer as it was.** -/
theorem WellNested.active {m : Nat} (h : WellNested c.forest.length moves m) :
    (c.run moves).active = c.active :=
  (h.frame c rfl).1

end Contexts

namespace Context

/-! ### Scopes -/

namespace Session

variable {s : Session} {name : String}

/-- A scope makes a context when it is opened. -/
theorem contexts_scope (h : s.scopes[name]? = none) (label : Option String) :
    (s.act (.scope name label)).2.contexts = s.contexts.move .create ∧
      (s.act (.scope name label)).2.scopes[name]? = some s.contexts.create.1 := by
  cases label <;> simp [act, openScope, bind, h, Contexts.move]

/-- It closes the context when it is dropped. -/
theorem contexts_endScope {id : ContextId} (h : s.scopes[name]? = some id) :
    (s.act (.endScope name)).2.contexts = s.contexts.move (.close id) := by
  simp [act, h, Contexts.move]

end Session

/-! ### Guards -/

namespace View

variable {v v' v'' : View} {guard : Nat} {before : Option ContextId}

/-- A guard remembers what was active before it, until it is dropped. -/
theorem guards_act {act : Act} {sight : Sight} (h : v.act act = some (sight, v'))
    (hact : act ≠ .exit guard) (hguard : v.guards guard = some before) :
    v'.guards guard = some before := by
  cases act with
  | create =>
    cases h
    exact hguard
  | detached =>
    cases h
    exact hguard
  | close id =>
    cases h
    exact hguard
  | current =>
    cases h
    exact hguard
  | enter id other =>
    cases hother : v.guards other with
    | some _ => simp [View.act, hother] at h
    | none =>
      have hne : guard ≠ other := fun heq => by simp [heq, hother] at hguard
      simp only [View.act, hother, Option.some.injEq] at h
      cases h
      exact (Function.update_of_ne hne _ _).trans hguard
  | exit other =>
    have hne : guard ≠ other := fun heq => hact (heq ▸ rfl)
    cases hother : v.guards other with
    | none => simp [View.act, hother] at h
    | some _ =>
      simp only [View.act, hother, Option.some.injEq] at h
      cases h
      exact (Function.update_of_ne hne _ _).trans hguard

theorem guards_run {happenings : List Happening} {sights : List Sight}
    (h : v.run happenings = some (sights, v')) (hkept : .own (.exit guard) ∉ happenings)
    (hguard : v.guards guard = some before) : v'.guards guard = some before := by
  induction happenings generalizing v sights with
  | nil =>
    cases h
    exact hguard
  | cons happening rest ih =>
    have hfirst := List.ne_of_not_mem_cons hkept
    have hrest := List.not_mem_of_not_mem_cons hkept
    cases happening with
    | own act =>
      obtain ⟨⟨sight, middle⟩, hact, h⟩ := Option.bind_eq_some_iff.mp h
      obtain ⟨⟨later, last⟩, hrun, h⟩ := Option.bind_eq_some_iff.mp h
      cases h
      exact ih hrun hrest (guards_act hact (fun heq => hfirst (heq ▸ rfl)) hguard)
    | elsewhere parent => exact ih h hrest hguard

/-- **A guard brings back what was active before it was taken**, whatever happens until it is
dropped: contexts that are never closed, closes in any order, other guards. -/
theorem active_exit {id : ContextId} {sight : Sight} {happenings : List Happening}
    {sights : List Sight} (henter : v.act (.enter id guard) = some (sight, v'))
    (hrun : v'.run happenings = some (sights, v'')) (hkept : .own (.exit guard) ∉ happenings) :
    ∃ last after, v''.act (.exit guard) = some (last, after) ∧
      after.contexts.active = v.contexts.active := by
  have hguard : v'.guards guard = some v.contexts.active := by
    cases hfree : v.guards guard with
    | some _ => simp [View.act, hfree] at henter
    | none =>
      simp only [View.act, hfree, Option.some.injEq] at henter
      cases henter
      exact Function.update_self ..
  have hexit : v''.act (.exit guard) =
      some ({ v'' with guards := Function.update v''.guards guard none }.moved
        (v''.contexts.swap v.contexts.active).2) := by
    simp only [View.act, guards_run hrun hkept hguard]
  exact ⟨_, _, hexit, rfl⟩

end View

/-- **The active context is the top of a stack.** A thread starts without an active context,
makes contexts and closes contexts in any order, while other threads make some too. Then the
active context and its ancestors are the contexts that it made and did not close with effect,
latest first. A context that was closed with effect is never active again, and every chain of
parents leads, without coming by a context twice, to one that has no parent. A close of a context
that is not active does nothing. Nested moves, such as those of scopes, leave the pointer as it
was, and a guard that is dropped brings back what was active before it was taken. -/
theorem active_context_is_a_stack :
    (∀ (f : Forest) (moves : List Move),
      let start : Contexts := { forest := f }
      let c := start.run moves
      let account := start.account moves
      c.lineage = account.open ∧ account.open.Pairwise (· > ·) ∧
      (∀ id ∈ account.closed, ∀ more, (c.run more).active ≠ some id) ∧
      ∀ id ∈ account.created,
        c.forest.Ascends id (c.forest.chain id) ∧ (c.forest.chain id).Nodup) ∧
    (∀ (c : Contexts) (id : ContextId), c.active ≠ some id → c.close id = c) ∧
    (∀ (c : Contexts) (moves : List Move) (m : Nat),
      Contexts.WellNested c.forest.length moves m → (c.run moves).active = c.active) ∧
    (∀ (s : Session) (name : String) (label : Option String), s.scopes[name]? = none →
      let opened := (s.act (.scope name label)).2
      opened.contexts = s.contexts.move .create ∧
      opened.scopes[name]? = some s.contexts.create.1 ∧
      ∀ (later : Session) (id : ContextId), later.scopes[name]? = some id →
        (later.act (.endScope name)).2.contexts = later.contexts.move (.close id)) ∧
    ∀ (v entered left : View) (id : ContextId) (guard : Nat) (happenings : List Happening)
      (sight : Sight) (sights : List Sight),
      v.act (.enter id guard) = some (sight, entered) →
      entered.run happenings = some (sights, left) → .own (.exit guard) ∉ happenings →
      ∃ last after, left.act (.exit guard) = some (last, after) ∧
        after.contexts.active = v.contexts.active := by
  refine ⟨fun f moves => ?_, fun _ _ => Contexts.close_of_ne,
    fun _ _ _ => Contexts.WellNested.active, fun s name label hfree => ?_,
    fun _ _ _ _ _ _ _ _ => View.active_exit⟩
  · intro start c account
    have hstacked : Contexts.Stacked c account := (Contexts.Stacked.start f).run moves
    refine ⟨hstacked.lineage, hstacked.latest_open, fun id hclosed more => ?_, fun id hmade => ?_⟩
    · exact (hstacked.run more).ne_of_mem_closed
        (Contexts.mem_closed_accountFrom hclosed c more)
    · exact ⟨Forest.ascends_chain hstacked.known hstacked.older hmade,
        Forest.nodup_chain c.forest id⟩
  · intro opened
    obtain ⟨hcontexts, hscope⟩ := Session.contexts_scope hfree label
    exact ⟨hcontexts, hscope, fun _ _ => Session.contexts_endScope⟩

/-- A context is closed while its child is active, which does nothing, and another one twice. What
was never closed stays, through a nested block as well, and so it does under a guard. -/
theorem unclosed_contexts_stay_below :
    let moves : List Move :=
      [.create, .create, .close 0, .elsewhere none, .create, .close 1, .close 3, .close 3]
    let block : List Move := [.create, .elsewhere none, .create, .close 6, .close 4]
    let c := ({} : Contexts).run moves
    c.lineage = [1, 0] ∧ (∀ more, (c.run more).active ≠ some 3) ∧
    (c.active ≠ some 0 ∧ c.close 0 = c) ∧
    (Contexts.WellNested c.forest.length block 7 ∧ (c.run block).active = some 1) ∧
    (∃ opened, opened = (Session.act {} (.scope "scope" none)).2 ∧
      opened.contexts = Contexts.move {} .create) ∧
    ∃ sight entered sights left last after,
      (View.alone c.forest c.active).act (.enter 0 7) = some (sight, entered) ∧
      entered.run [.own .create, .own (.close 0), .own (.enter 1 8)] = some (sights, left) ∧
      left.act (.exit 7) = some (last, after) ∧ after.contexts.active = some 1 := by
  intro moves block c
  obtain ⟨hstack, hclose, hnested, hscope, hguard⟩ := active_context_is_a_stack
  obtain ⟨hlineage, -, hclosed, -⟩ := hstack [] moves
  have hempty : Contexts.WellNested 7 [] 7 := .nothing 7
  have hblock : Contexts.WellNested c.forest.length block 7 :=
    .block (.elsewhere (.block hempty hempty)) hempty
  have hne : c.active ≠ some 0 := by decide
  obtain ⟨sight, entered, henter, sights, left, hrun⟩ : ∃ sight entered,
      (View.alone c.forest c.active).act (.enter 0 7) = some (sight, entered) ∧ ∃ sights left,
        entered.run [.own .create, .own (.close 0), .own (.enter 1 8)] = some (sights, left) :=
    ⟨_, _, rfl, _, _, rfl⟩
  obtain ⟨last, after, hexit, hactive⟩ :=
    hguard _ entered left 0 7 _ sight sights henter hrun (by decide)
  refine ⟨hlineage, hclosed 3 (by decide), ⟨hne, hclose c 0 hne⟩,
    ⟨hblock, hnested c block 7 hblock⟩, ⟨_, rfl, (hscope {} "scope" none rfl).1⟩, ?_⟩
  exact ⟨sight, entered, sights, left, last, after, henter, hrun, hexit, hactive⟩

end Context

end RemoteCall
