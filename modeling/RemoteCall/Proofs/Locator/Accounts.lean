/-
The accounts of a locator: what its statistics come to.

* `AnyLocator.Used` — a locator goes through what a log says of it: it is asked, it
  hears of sends, and in between it may change in any way that leaves its book alone.
  Subscribing, refreshing, the passing of time and destroying do that.
* `AnyLocator.Used.account_counts` — every feedback counts once, in the account of its
  instance's code. Words wrap around.
* `AnyLocator.Used.accounts` — below 2^64 feedbacks the counts are exact, and nothing is
  counted anywhere else.
-/
import Mathlib.Algebra.BigOperators.Group.Finset.Piecewise
import RemoteCall.Proofs.Call.Record
import RemoteCall.Proofs.Locator.Selection

namespace RemoteCall

/-! ## Books -/

namespace Statistics

variable (s : Statistics) (elapsed : Elapsed) (succeeded : Bool)

@[simp] theorem total_record : (s.record elapsed succeeded).total = s.total + 1 := by
  cases succeeded <;> rfl

@[simp] theorem failed_record :
    (s.record elapsed succeeded).failed = s.failed + if succeeded then 0 else 1 := by
  cases succeeded with
  | true => exact (UInt64.add_zero _).symm
  | false => rfl

end Statistics

namespace StatusBook

/-- What is counted for a code; nothing without an account. -/
def account (book : StatusBook) (code : String) : Statistics := (book[code]?).getD {}

variable (book : StatusBook) (code other : String) (elapsed : Elapsed) (succeeded : Bool)

theorem account_record : (book.record code elapsed succeeded).account other =
    if code = other then (book.account other).record elapsed succeeded
    else book.account other := by
  unfold account record
  rw [Std.ExtTreeMap.getElem?_insert]
  by_cases h : code = other
  · subst h
    simp
  · simp [h]

theorem mem_record : other ∈ book.record code elapsed succeeded ↔ code = other ∨ other ∈ book := by
  simp [record, Std.ExtTreeMap.mem_insert]

end StatusBook

/-! ## What leaves the book alone -/

namespace RegistryLocator

variable {β : Type} [Discovery β] (l : RegistryLocator β) (id : SubscriptionId)

@[simp] theorem status_refresh : (l.refresh id).status = l.status := by
  unfold refresh
  split
  · rfl
  · simp only
    split <;> rfl

@[simp] theorem status_loadFirst : (l.loadFirst id).status = l.status := by
  unfold loadFirst
  split
  · rfl
  · split
    · simp
    · rfl

@[simp] theorem status_subscribe (name : String) : (l.subscribe name).2.status = l.status := by
  unfold subscribe
  split
  · rfl
  · simp only
    split
    · rfl
    · simp

@[simp] theorem status_locate (invocation : Invocation) (exclusions : List ServiceInstance) :
    (l.locate invocation exclusions).2.status = l.status := by
  have h := l.status_subscribe invocation.targetName
  unfold locate
  split
  · next hs => rwa [hs] at h
  · next hs => rwa [hs] at h

@[simp] theorem status_destroy : l.destroy.status = l.status := by
  unfold destroy
  split <;> rfl

@[simp] theorem status_runDue (punctual : Bool) (limit fuel : Nat) :
    (runDue punctual limit fuel l).status = l.status := by
  induction fuel generalizing l with
  | zero => rfl
  | succ fuel ih =>
    unfold runDue
    split
    · rfl
    · rw [ih, tick, status_refresh]
      cases punctual <;> rfl

@[simp] theorem status_advance (millis : Nat) : (l.advance millis).status = l.status := by
  simp [advance, settle]

@[simp] theorem status_jump (millis : Nat) : (l.jump millis).status = l.status := by
  simp [jump, settle]

end RegistryLocator

/-! ## Locators in use -/

namespace AnyLocator

variable {β : Type} [Discovery β] {ω : Type}

/-- The statistics of a locator. -/
def book : AnyLocator β → StatusBook
  | .inl direct => direct.status
  | .inr registry => registry.status

@[simp] theorem book_locate (l : AnyLocator β) (invocation : Invocation)
    (exclusions : List ServiceInstance) :
    (Locator.locate l invocation exclusions).2.book = l.book := by
  cases l with
  | inl direct => rfl
  | inr registry => exact registry.status_locate invocation exclusions

@[simp] theorem book_feedback (l : AnyLocator β) (node : ServiceInstance) (outcome : Outcome)
    (elapsed : Elapsed) : (Locator.feedback l node outcome elapsed).book =
      l.book.record node.code elapsed (succeeded outcome) := by
  cases l <;> rfl

/-- A locator goes through what a log says of it, and whatever leaves its book alone may happen
in between. -/
inductive Used : AnyLocator β → Record ω → AnyLocator β → Prop where
  | nothing (l : AnyLocator β) : Used l [] l
  | aside {l m n : AnyLocator β} {log : Record ω} (book : m.book = l.book) (rest : Used m log n) :
    Used l log n
  | located {l n : AnyLocator β} {log : Record ω} (lookup : Lookup ω)
    (rest : Used (Locator.locate l lookup.scene.invocation lookup.exclusions).2 log n) :
    Used l (.located lookup
      (Locator.locate l lookup.scene.invocation lookup.exclusions).1 :: log) n
  | sent {l n : AnyLocator β} {log : Record ω} (scene : Scene ω) (node : ServiceInstance)
    (request : Request) (answer : Except TransportError Response) (rest : Used l log n) :
    Used l (.sent scene node request answer :: log) n
  | heard {l n : AnyLocator β} {log : Record ω} (scene : Scene ω) (node : ServiceInstance)
    (outcome : Outcome) (elapsed : Elapsed)
    (rest : Used (Locator.feedback l node outcome elapsed) log n) :
    Used l (.heard scene node outcome elapsed :: log) n
  | read {l n : AnyLocator β} {log : Record ω} (reading : Reading ω) (rest : Used l log n) :
    Used l (.read reading :: log) n

end AnyLocator

namespace Event

variable {ω : Type}

/-- The event is a feedback. -/
def isHeard : Event ω → Bool
  | .heard .. => true
  | _ => false

/-- The event is a feedback about an instance with the code, and of an outcome that counts. -/
def reports (counts : Outcome → Bool) (code : String) : Event ω → Bool
  | .heard _ node outcome _ => node.code == code && counts outcome
  | _ => false

end Event

namespace AnyLocator.Used

variable {β : Type} [Discovery β] {ω : Type} {l m n : AnyLocator β} {log more : Record ω}

theorem append (h : Used l log m) (hmore : Used m more n) : Used l (log ++ more) n := by
  induction h with
  | nothing => exact hmore
  | aside book _ ih => exact .aside book (ih hmore)
  | located lookup _ ih => exact .located lookup (ih hmore)
  | sent scene node request answer _ ih => exact .sent scene node request answer (ih hmore)
  | heard scene node outcome elapsed _ ih => exact .heard scene node outcome elapsed (ih hmore)
  | read reading _ ih => exact .read reading (ih hmore)

/-- What a word of an account counts, it counts once for every feedback of that kind. -/
theorem account_counts {word : Statistics → UInt64} {counts : Outcome → Bool}
    (hword : ∀ before elapsed outcome, word (before.record elapsed (succeeded outcome)) =
      word before + if counts outcome then 1 else 0) (h : Used l log n) (code : String) :
    word (n.book.account code) =
      word (l.book.account code) + UInt64.ofNat (log.countP (Event.reports counts code)) := by
  -- by induction on what the locator went through: only a feedback changes the book
  induction h with
  | nothing => exact (UInt64.add_zero _).symm
  | aside book _ ih => rw [ih, book]
  | located lookup _ ih => rw [ih, book_locate, List.countP_cons_of_neg (by simp [Event.reports])]
  | sent _ _ _ _ _ ih => rw [ih, List.countP_cons_of_neg (by simp [Event.reports])]
  | read _ _ ih => rw [ih, List.countP_cons_of_neg (by simp [Event.reports])]
  | heard _ node outcome _ _ ih =>
    rw [ih, book_feedback, StatusBook.account_record]
    by_cases hcode : node.code = code
    · rw [if_pos hcode, hword]
      cases hcounts : counts outcome with
      | true =>
        rw [if_pos rfl, List.countP_cons_of_pos (by simp [Event.reports, hcode, hcounts]),
          UInt64.ofNat_add, UInt64.add_assoc, UInt64.add_comm 1]
        rfl
      | false =>
        rw [if_neg Bool.false_ne_true, UInt64.add_zero,
          List.countP_cons_of_neg (by simp [Event.reports, hcounts])]
    · rw [if_neg hcode, List.countP_cons_of_neg (by simp [Event.reports, hcode])]

theorem account_total (h : Used l log n) (code : String) : (n.book.account code).total =
    (l.book.account code).total +
      UInt64.ofNat (log.countP (Event.reports (fun _ => true) code)) := by
  refine h.account_counts (fun before elapsed outcome => ?_) code
  rw [Statistics.total_record, if_pos rfl]

theorem account_failed (h : Used l log n) (code : String) : (n.book.account code).failed =
    (l.book.account code).failed +
      UInt64.ofNat (log.countP (Event.reports (fun outcome => !succeeded outcome) code)) := by
  refine h.account_counts (fun before elapsed outcome => ?_) code
  rw [Statistics.failed_record]
  cases succeeded outcome <;> rfl

/-- Accounts are never closed, and every feedback has one. -/
theorem mem_book (h : Used l log n) {code : String}
    (hcode : code ∈ l.book ∨ ∃ e ∈ log, e.reports (fun _ => true) code = true) :
    code ∈ n.book := by
  induction h with
  | nothing => simpa using hcode
  | aside book _ ih => exact ih (by rwa [book])
  | located lookup _ ih => exact ih (by simpa [Event.reports] using hcode)
  | sent _ _ _ _ _ ih => exact ih (by simpa [Event.reports] using hcode)
  | read _ _ ih => exact ih (by simpa [Event.reports] using hcode)
  | heard _ node outcome _ _ ih =>
    refine ih ?_
    rw [book_feedback, StatusBook.mem_record]
    rcases hcode with hbefore | ⟨e, he, hreports⟩
    · exact .inl (.inr hbefore)
    · rcases List.mem_cons.mp he with rfl | he
      · exact .inl (.inl (by simpa [Event.reports] using hreports))
      · exact .inr ⟨e, he, hreports⟩

end AnyLocator.Used

/-- Counting by codes comes to counting all, if no code is left out. -/
theorem sum_countP_reports {ω : Type} {codes : Finset String} {log : Record ω}
    (h : ∀ code, ∀ e ∈ log, e.reports (fun _ => true) code = true → code ∈ codes) :
    ∑ code ∈ codes, log.countP (Event.reports (fun _ => true) code) =
      log.countP Event.isHeard := by
  induction log with
  | nil => simp
  | cons e log ih =>
    have hlog := ih fun code e he => h code e (List.mem_cons_of_mem _ he)
    simp only [List.countP_cons, Finset.sum_add_distrib, hlog, Nat.add_left_cancel_iff]
    cases e with
    | heard scene node outcome elapsed =>
      have hnode : node.code ∈ codes := h node.code _ List.mem_cons_self (by simp [Event.reports])
      simp [Event.reports, Event.isHeard, hnode]
    | _ => simp [Event.reports, Event.isHeard]

namespace AnyLocator.Used

variable {β : Type} [Discovery β] {ω : Type} {l n : AnyLocator β} {log : Record ω}

theorem countP_reports_le (counts : Outcome → Bool) (code : String) (log : Record ω) :
    log.countP (Event.reports counts code) ≤ log.countP Event.isHeard :=
  List.countP_mono_left fun e _ he => by
    cases e with
    | heard _ _ _ _ => rfl
    | _ => cases he

/-- **The accounts are exact.** As long as a word can hold the number of feedbacks, a locator
without statistics ends up with one count for each of them, in the account of its code. -/
theorem accounts (h : Used l log n) (hempty : l.book = ∅)
    (hsmall : log.countP Event.isHeard < UInt64.size) :
    (∀ code, (n.book.account code).total.toNat =
        log.countP (Event.reports (fun _ => true) code) ∧
      (n.book.account code).failed.toNat =
        log.countP (Event.reports (fun outcome => !succeeded outcome) code)) ∧
    ∑ code ∈ n.book.keys.toFinset, (n.book.account code).total.toNat =
      log.countP Event.isHeard := by
  have hnone : ∀ code, l.book.account code = {} := fun code => by
    rw [hempty, StatusBook.account, Std.ExtTreeMap.getElem?_empty]
    rfl
  have hexact : ∀ code, (n.book.account code).total.toNat =
        log.countP (Event.reports (fun _ => true) code) ∧
      (n.book.account code).failed.toNat =
        log.countP (Event.reports (fun outcome => !succeeded outcome) code) := by
    intro code
    rw [h.account_total, h.account_failed, hnone]
    simp only [UInt64.zero_add]
    exact ⟨UInt64.toNat_ofNat_of_lt' ((countP_reports_le _ code log).trans_lt hsmall),
      UInt64.toNat_ofNat_of_lt' ((countP_reports_le _ code log).trans_lt hsmall)⟩
  refine ⟨hexact, ?_⟩
  rw [Finset.sum_congr rfl fun code _ => (hexact code).1]
  refine sum_countP_reports fun code e he hreports => ?_
  rw [List.mem_toFinset, Std.ExtTreeMap.mem_keys]
  exact h.mem_book (.inr ⟨e, he, hreports⟩)

end AnyLocator.Used

end RemoteCall
