/-
What the statistics of an instance say about its calls.

Every counter of an account changes with each call, by an addition that wraps around or to a
maximum. What they come to says nothing about the order of the calls: it is a count, a sum or a
maximum over all calls since the account was last closed, and calls of other instances do not
matter.

* `Statistics.Summarizes` — the counters are those of a multiset of calls.
* `Statistics.Summarizes.record` — counting one more call.
* `StatusBook.since` — the calls of an instance after its last removal from a book.
* `StatusBook.statistics_are_summaries` — every account of a book summarizes these calls.
-/
import Mathlib.Algebra.Group.Action.Defs
import Mathlib.Algebra.Order.BigOperators.Group.Multiset
import Mathlib.Algebra.Order.Group.Nat
import Mathlib.Data.List.Induction
import Mathlib.Data.List.TakeWhile
import Mathlib.Data.Multiset.Lattice
import Mathlib.Order.Lattice.Nat
import Mathlib.Order.Nat
import RemoteCall.Locator.Statistics

namespace RemoteCall

/-- One call: how long it took, and whether it succeeded. -/
structure Sample where
  elapsed : Elapsed
  succeeded : Bool
deriving DecidableEq, Repr

namespace Sample

/-- The whole milliseconds that the call took, as far as a word can hold them. -/
def millis (sample : Sample) : Nat := sample.elapsed.nanos / 1000000 % UInt64.size

theorem toNat_millis (sample : Sample) : sample.elapsed.millis.toNat = sample.millis :=
  UInt64.toNat_ofNat'

/-- The calls that succeeded. -/
def successes (samples : Multiset Sample) : Multiset Sample := samples.filter (·.succeeded = true)

/-- The calls that failed. -/
def failures (samples : Multiset Sample) : Multiset Sample := samples.filter (·.succeeded = false)

theorem failures_add_successes (samples : Multiset Sample) :
    failures samples + successes samples = samples := by
  rw [failures, successes, ← samples.filter_add_not (·.succeeded = false)]
  simp

end Sample

namespace Statistics

variable {s : Statistics} {samples : Multiset Sample}

/-- The counters are those of some calls: counts and sums as far as a word can hold them, and
maxima, which are zero where there are no calls. -/
structure Summarizes (s : Statistics) (samples : Multiset Sample) : Prop where
  total : s.total.toNat = samples.card % UInt64.size
  failed : s.failed.toNat = (Sample.failures samples).card % UInt64.size
  totalElapsed : s.totalElapsed.toNat = (samples.map Sample.millis).sum % UInt64.size
  failedElapsed :
    s.failedElapsed.toNat = ((Sample.failures samples).map Sample.millis).sum % UInt64.size
  maxElapsed : s.maxElapsed.toNat = (samples.map Sample.millis).sup
  failedMaxElapsed : s.failedMaxElapsed.toNat = ((Sample.failures samples).map Sample.millis).sup
  succeededMaxElapsed :
    s.succeededMaxElapsed.toNat = ((Sample.successes samples).map Sample.millis).sup

namespace Summarizes

theorem start : Summarizes {} 0 := by
  constructor <;> rfl

theorem toNat_add_of_mod {a b : UInt64} {m n : Nat} (ha : a.toNat = m % UInt64.size)
    (hb : b.toNat = n) : (a + b).toNat = (n + m) % UInt64.size := by
  rw [UInt64.toNat_add, ha, hb, Nat.mod_add_mod, Nat.add_comm]

theorem toNat_max_of_sup {a b : UInt64} {m n : Nat} (ha : a.toNat = m) (hb : b.toNat = n) :
    (max a b).toNat = n ⊔ m := by
  rw [UInt64.toNat_max, ha, hb, max_comm]

/-- **One more call.** It adds to the counters of its kind. -/
theorem record (h : s.Summarizes samples) (sample : Sample) :
    (s.record sample.elapsed sample.succeeded).Summarizes (sample ::ₘ samples) := by
  have htime := sample.toNat_millis
  have htotal : (s.total + 1).toNat = (sample ::ₘ samples).card % UInt64.size := by
    rw [Multiset.card_cons, Nat.add_comm]
    exact toNat_add_of_mod h.total rfl
  have htotalElapsed : (s.totalElapsed + sample.elapsed.millis).toNat =
      ((sample ::ₘ samples).map Sample.millis).sum % UInt64.size := by
    rw [Multiset.map_cons, Multiset.sum_cons]
    exact toNat_add_of_mod h.totalElapsed htime
  have hmaxElapsed : (max s.maxElapsed sample.elapsed.millis).toNat =
      ((sample ::ₘ samples).map Sample.millis).sup := by
    rw [Multiset.map_cons, Multiset.sup_cons]
    exact toNat_max_of_sup h.maxElapsed htime
  cases hkind : sample.succeeded with
  | true =>
    have hfailures : Sample.failures (sample ::ₘ samples) = Sample.failures samples :=
      Multiset.filter_cons_of_neg _ (by simp [hkind])
    have hsuccesses : Sample.successes (sample ::ₘ samples) = sample ::ₘ Sample.successes samples :=
      Multiset.filter_cons_of_pos _ hkind
    exact {
      total := htotal
      totalElapsed := htotalElapsed
      maxElapsed := hmaxElapsed
      failed := by rw [hfailures]; exact h.failed
      failedElapsed := by rw [hfailures]; exact h.failedElapsed
      failedMaxElapsed := by rw [hfailures]; exact h.failedMaxElapsed
      succeededMaxElapsed := by
        rw [hsuccesses, Multiset.map_cons, Multiset.sup_cons]
        exact toNat_max_of_sup h.succeededMaxElapsed htime }
  | false =>
    have hfailures : Sample.failures (sample ::ₘ samples) = sample ::ₘ Sample.failures samples :=
      Multiset.filter_cons_of_pos _ hkind
    have hsuccesses : Sample.successes (sample ::ₘ samples) = Sample.successes samples :=
      Multiset.filter_cons_of_neg _ (by simp [hkind])
    exact {
      total := htotal
      totalElapsed := htotalElapsed
      maxElapsed := hmaxElapsed
      failed := by
        rw [hfailures, Multiset.card_cons, Nat.add_comm]
        exact toNat_add_of_mod h.failed rfl
      failedElapsed := by
        rw [hfailures, Multiset.map_cons, Multiset.sum_cons]
        exact toNat_add_of_mod h.failedElapsed htime
      failedMaxElapsed := by
        rw [hfailures, Multiset.map_cons, Multiset.sup_cons]
        exact toNat_max_of_sup h.failedMaxElapsed htime
      succeededMaxElapsed := by rw [hsuccesses]; exact h.succeededMaxElapsed }

/-- The same calls come to the same counters. -/
theorem unique {other : Statistics} (h : s.Summarizes samples) (hother : other.Summarizes samples) :
    s = other := by
  have heq : ∀ {a b : UInt64} {n : Nat}, a.toNat = n → b.toNat = n → a = b :=
    fun ha hb => UInt64.toNat_inj.mp (ha.trans hb.symm)
  cases s
  cases other
  exact (Statistics.mk.injEq ..).mpr ⟨heq h.total hother.total, heq h.failed hother.failed,
    heq h.totalElapsed hother.totalElapsed, heq h.failedElapsed hother.failedElapsed,
    heq h.maxElapsed hother.maxElapsed, heq h.failedMaxElapsed hother.failedMaxElapsed,
    heq h.succeededMaxElapsed hother.succeededMaxElapsed⟩

/-! ### What follows from the counters -/

/-- The longest call is the longest one of its kind. -/
theorem maxElapsed_eq (h : s.Summarizes samples) :
    s.maxElapsed.toNat = max s.failedMaxElapsed.toNat s.succeededMaxElapsed.toNat := by
  rw [h.maxElapsed, h.failedMaxElapsed, h.succeededMaxElapsed, ← Multiset.sup_add,
    ← Multiset.map_add, Sample.failures_add_successes]

/-- The number of successes is exact as long as a word can hold the number of calls. -/
theorem toNat_succeeded (h : s.Summarizes samples) (small : samples.card < UInt64.size) :
    s.succeeded.toNat = (Sample.successes samples).card := by
  have hcard : (Sample.failures samples).card + (Sample.successes samples).card = samples.card := by
    rw [← Multiset.card_add, Sample.failures_add_successes]
  have htotal : s.total.toNat = samples.card := by
    rw [h.total, Nat.mod_eq_of_lt small]
  have hfailed : s.failed.toNat = (Sample.failures samples).card := by
    rw [h.failed, Nat.mod_eq_of_lt (by omega)]
  have hle : s.failed ≤ s.total := by
    rw [UInt64.le_iff_toNat_le]
    omega
  rw [succeeded, if_pos hle, UInt64.toNat_sub_of_le _ _ hle]
  omega

/-- No average is above the longest call, as long as a word can hold the number of calls. The sum
of all times may have wrapped around. -/
theorem averageElapsed_le (h : s.Summarizes samples) (small : samples.card < UInt64.size) :
    s.averageElapsed.toNat ≤ s.maxElapsed.toNat := by
  rw [averageElapsed]
  split
  · exact Nat.zero_le _
  · rw [UInt64.toNat_div, h.total, Nat.mod_eq_of_lt small, h.totalElapsed, h.maxElapsed]
    refine Nat.div_le_of_le_mul (Nat.le_trans (Nat.mod_le _ _) ?_)
    have hsum := Multiset.sum_le_card_nsmul (samples.map Sample.millis) _ fun _ => Multiset.le_sup
    rwa [Multiset.card_map, smul_eq_mul] at hsum

end Summarizes

end Statistics

namespace StatusBook

/-! ## Books -/

/-- What is done to a book. -/
inductive Entry where
  | record (code : String) (sample : Sample)
  | remove (code : String)

namespace Entry

def apply (book : StatusBook) : Entry → StatusBook
  | record code sample => book.record code sample.elapsed sample.succeeded
  | remove code => (book.remove code).2

/-- An entry closes the account of a code. -/
def closes (code : String) : Entry → Bool
  | record .. => false
  | remove other => code == other

/-- The call of a code that an entry counts. -/
def sample? (code : String) : Entry → Option Sample
  | record other sample => if code = other then some sample else none
  | remove _ => none

/-- The code that an entry is about. -/
def code : Entry → String
  | record code _ | remove code => code

end Entry

/-- The book after entries. -/
def run (entries : List Entry) : StatusBook := entries.foldl Entry.apply ∅

/-- The calls of a code after its account was closed for the last time, latest first. -/
def since (code : String) (entries : List Entry) : List Sample :=
  (entries.reverse.takeWhile fun e => !e.closes code).filterMap (·.sample? code)

variable {code : String} {entries others : List Entry}

theorem since_append (code : String) (entries : List Entry) (entry : Entry) :
    since code (entries ++ [entry]) =
      if entry.closes code then [] else (entry.sample? code).toList ++ since code entries := by
  rw [since, List.reverse_append, List.reverse_singleton, List.singleton_append,
    List.takeWhile_cons]
  cases entry.closes code with
  | true => rfl
  | false => cases h : entry.sample? code <;> simp [h, since]

theorem since_record (code other : String) (entries : List Entry) (sample : Sample) :
    since code (entries ++ [.record other sample]) =
      if code = other then sample :: since code entries else since code entries := by
  rw [since_append]
  by_cases h : code = other <;> simp [Entry.closes, Entry.sample?, h]

theorem since_remove (code other : String) (entries : List Entry) :
    since code (entries ++ [.remove other]) =
      if code = other then [] else since code entries := by
  rw [since_append]
  by_cases h : code = other <;> simp [Entry.closes, Entry.sample?, h]

/-- An account is there exactly if there are calls, and it summarizes them. -/
structure Accounts (account : Option Statistics) (samples : List Sample) : Prop where
  none_iff : account = none ↔ samples = []
  summarizes : ∀ s, account = some s → s.Summarizes samples

namespace Accounts

variable {account : Option Statistics} {samples : List Sample}

theorem none : Accounts none [] := ⟨by simp, nofun⟩

/-- One more call opens an account where there is none. -/
theorem record (h : Accounts account samples) (sample : Sample) :
    Accounts (some ((account.getD {}).record sample.elapsed sample.succeeded))
      (sample :: samples) where
  none_iff := by simp
  summarizes := by
    rintro s ⟨⟩
    cases account with
    | none =>
      obtain rfl : samples = [] := h.none_iff.mp rfl
      exact Statistics.Summarizes.start.record sample
    | some counted => exact (h.summarizes counted rfl).record sample

/-- The account depends on the calls, and not on their order. -/
theorem eq_of_perm {other : Option Statistics} {samples' : List Sample}
    (h : Accounts account samples) (hother : Accounts other samples')
    (perm : samples'.Perm samples) : other = account := by
  cases account with
  | none =>
    obtain rfl : samples = [] := h.none_iff.mp rfl
    exact hother.none_iff.mpr perm.eq_nil
  | some s =>
    cases other with
    | none =>
      obtain rfl : samples' = [] := hother.none_iff.mp rfl
      exact nomatch h.none_iff.mpr perm.symm.eq_nil
    | some s' =>
      have hs' : s'.Summarizes samples := Multiset.coe_eq_coe.mpr perm ▸ hother.summarizes s' rfl
      rw [hs'.unique (h.summarizes s rfl)]

end Accounts

/-- Every account of a book is that of the calls since it was closed. -/
theorem accounts_run (code : String) (entries : List Entry) :
    Accounts (run entries)[code]? (since code entries) := by
  induction entries using List.reverseRecOn with
  | nil =>
    have hempty : (run [])[code]? = none := Std.ExtTreeMap.getElem?_empty
    rw [hempty]
    exact .none
  | append_singleton entries entry ih =>
    rw [run, List.foldl_append, List.foldl_cons, List.foldl_nil]
    rw [run] at ih
    generalize entries.foldl Entry.apply ∅ = book at ih
    cases entry with
    | record other sample =>
      have hbook : ((Entry.record other sample).apply book)[code]? =
          if code = other then
            some (((book[other]?).getD {}).record sample.elapsed sample.succeeded)
          else book[code]? := Table.getElem?_insert_eq ..
      rw [hbook, since_record]
      split
      · next h => exact h ▸ ih.record sample
      · exact ih
    | remove other =>
      have hbook : ((Entry.remove other).apply book)[code]? =
          if code = other then none else book[code]? := Table.getElem?_erase_eq ..
      rw [hbook, since_remove]
      split
      · exact .none
      · exact ih

/-! ## Other orders -/

/-- Entries that close no account of a code can be put in any order. -/
theorem since_perm (perm : entries.Perm others) (kept : ∀ e ∈ entries, e.closes code = false) :
    (since code others).Perm (since code entries) := by
  have hall : ∀ {es : List Entry}, (∀ e ∈ es, e.closes code = false) →
      es.reverse.takeWhile (fun e => !e.closes code) = es.reverse := by
    intro es hes
    refine List.takeWhile_eq_self_iff.mpr fun e he => ?_
    rw [hes e (List.mem_reverse.mp he), Bool.not_false]
  rw [since, since, hall kept, hall fun e he => kept e (perm.mem_iff.mpr he)]
  exact ((others.reverse_perm.trans perm.symm).trans entries.reverse_perm.symm).filterMap _

/-- Entries about other codes can be left out. -/
theorem since_filter (code : String) (entries : List Entry) :
    since code (entries.filter (code = ·.code)) = since code entries := by
  induction entries using List.reverseRecOn with
  | nil => rfl
  | append_singleton entries entry ih =>
    rw [List.filter_append]
    by_cases hcode : code = entry.code
    · rw [List.filter_cons_of_pos (by simpa using hcode), List.filter_nil, since_append,
        since_append, ih]
    · rw [List.filter_cons_of_neg (by simpa using hcode), List.filter_nil, List.append_nil, ih]
      cases entry with
      | record other sample => exact ((since_record ..).trans (if_neg hcode)).symm
      | remove other => exact ((since_remove ..).trans (if_neg hcode)).symm

/-- **Statistics are summaries.** Whatever calls have been counted and whatever accounts closed in a
book, the account of a code is there exactly if a call of this code was counted after its account
was closed for the last time, and its counters are those of these calls. The longest call is the
longest failed or succeeded one. If a word can hold the number of calls, the number of successes is
exact and no average is above the longest call. Another history in which these calls come in
another order leads to the same account; in particular this is so when entries are put in another
order and none of them closes the account, and when the entries about other codes are left out. -/
theorem statistics_are_summaries (code : String) (entries : List Entry) :
    let account := (run entries)[code]?
    let samples := since code entries
    (account = none ↔ samples = []) ∧
    (∀ s, account = some s → s.Summarizes samples ∧
      s.maxElapsed.toNat = max s.failedMaxElapsed.toNat s.succeededMaxElapsed.toNat ∧
      (samples.length < UInt64.size → s.succeeded.toNat = (Sample.successes samples).card ∧
        s.averageElapsed.toNat ≤ s.maxElapsed.toNat)) ∧
    (∀ others, (since code others).Perm samples → (run others)[code]? = account) ∧
    (∀ others, entries.Perm others → (∀ e ∈ entries, e.closes code = false) →
      (run others)[code]? = account) ∧
    (run (entries.filter (code = ·.code)))[code]? = account := by
  intro account samples
  have haccounts : Accounts account samples := accounts_run code entries
  have hother : ∀ others, (since code others).Perm samples → (run others)[code]? = account :=
    fun others => haccounts.eq_of_perm (accounts_run code others)
  refine ⟨haccounts.none_iff, fun s hs => ?_, hother, fun others hperm hkept => ?_, ?_⟩
  · have hsummary := haccounts.summarizes s hs
    exact ⟨hsummary, hsummary.maxElapsed_eq,
      fun hsmall => ⟨hsummary.toNat_succeeded hsmall, hsummary.averageElapsed_le hsmall⟩⟩
  · exact hother others (since_perm hperm hkept)
  · exact hother _ (.of_eq (since_filter code entries))

/-- Calls of two instances. The account of left is closed once, and afterwards its longest call
takes as many milliseconds as a word can hold. -/
def visits : List Entry :=
  let call := fun code seconds nanos succeeded =>
    Entry.record code { elapsed := .ofParts seconds nanos, succeeded := succeeded }
  [call "left" 7 0 true, call "right" 0 40000000 false, .remove "left",
    call "left" 0 20999999 true, call "right" 1 0 true,
    call "left" 18446744073709551 615000000 false, call "left" 0 3000000 false]

/-- The sum of the times of left wraps around. -/
theorem visits_are_summarized :
    (∃ s, (run visits)["left"]? = some s ∧ s.total.toNat = 3 ∧ s.failed.toNat = 2 ∧
      s.totalElapsed.toNat = 22 ∧ s.failedElapsed.toNat = 2 ∧
      s.maxElapsed.toNat = 18446744073709551615 ∧ s.succeededMaxElapsed.toNat = 20 ∧
      s.succeeded.toNat = 1 ∧ s.averageElapsed.toNat ≤ s.maxElapsed.toNat) ∧
    (run visits.reverse)["right"]? = (run visits)["right"]? ∧
    (run [.record "left" { elapsed := ⟨3000000⟩, succeeded := false }, visits[3],
      visits[5]])["left"]? = (run visits)["left"]? := by
  obtain ⟨hnone, hsummary, hsince, -, -⟩ := statistics_are_summaries "left" visits
  obtain ⟨-, -, -, hperm, -⟩ := statistics_are_summaries "right" visits
  refine ⟨?_, hperm _ visits.reverse_perm.symm (by decide), hsince _ (by decide)⟩
  obtain ⟨s, hs⟩ := Option.ne_none_iff_exists'.mp fun h => absurd (hnone.mp h) (by decide)
  obtain ⟨h, -, hexact⟩ := hsummary s hs
  obtain ⟨hsucceeded, haverage⟩ := hexact (by decide)
  exact ⟨s, hs, h.total.trans (by decide), h.failed.trans (by decide),
    h.totalElapsed.trans (by decide), h.failedElapsed.trans (by decide),
    h.maxElapsed.trans (by decide), h.succeededMaxElapsed.trans (by decide),
    hsucceeded.trans (by decide), haverage⟩

end StatusBook

end RemoteCall
