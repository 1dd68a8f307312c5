/-
The round robin balancer is fair.

Only a choice among two or more candidates moves a counter, and only the counter of the name
that it is made for. So the choices for a name go through the numbers from its counter on,
whatever is asked for other names in between (`Balancer.place_eq`). As long as the counter does
not wrap around, choices among the same candidates that follow one another come to every place
of the list equally often, give or take one (`round_robin_is_fair`).
-/
import Mathlib.Data.Int.CardIntervalMod
import RemoteCall.Locator.Balancer

namespace RemoteCall

/-- The question is about a name, and there are two or more candidates. -/
def Question.contested (name : String) (q : Question) : Bool :=
  q.1 == name && 2 ≤ q.2.length

/-- What a balancer picked: the instance, and its place among the candidates. -/
structure Selection where
  question : Question
  place : Option Nat
  picked : Option ServiceInstance

namespace Balancer

variable {counters : Table UInt64} {name : String}

/-- The place of the candidate that is picked. -/
def place (b : Balancer) (q : Question) : Option Nat :=
  match q.2 with
  | [] => none
  | [_] => some 0
  | _ => some (b.number q % q.2.length)

/-- Asks one question after the other. -/
def selectAll (b : Balancer) : List Question → List Selection × Balancer
  | [] => ([], b)
  | q :: questions =>
    let (picked, after) := b.select q.1 q.2
    let (selections, last) := after.selectAll questions
    ({ question := q, place := b.place q, picked := picked } :: selections, last)

@[simp] theorem counter_empty (name : String) : counter ∅ name = 0 := by
  simp [counter]

/-- What is picked stands at the place. -/
theorem select_eq_place (b : Balancer) (q : Question) :
    (b.select q.1 q.2).1 = (b.place q).bind fun p => q.2[p]? := by
  obtain ⟨name, candidates⟩ := q
  match candidates with
  | [] => rfl
  | [_] => rfl
  | _ :: _ :: _ => rfl

/-- At most one candidate is no choice. -/
theorem select_of_length_lt (b : Balancer) {q : Question} (h : q.2.length < 2) :
    (b.select q.1 q.2).2 = b := by
  obtain ⟨name, candidates⟩ := q
  match candidates with
  | [] => rfl
  | [_] => rfl
  | _ :: _ :: rest => exact absurd h (Nat.not_lt.mpr (Nat.le_add_left 2 rest.length))

theorem select_of_two_le (b : Balancer) {q : Question} (h : 2 ≤ q.2.length) :
    (b.select q.1 q.2).2 = b.advance q ∧ b.place q = some (b.number q % q.2.length) := by
  obtain ⟨name, candidates⟩ := q
  match candidates with
  | [] => cases h
  | [_] => exact absurd h (Nat.not_le.mpr Nat.one_lt_two)
  | _ :: _ :: _ => exact ⟨rfl, rfl⟩

/-- The round robin balancer stays one. A choice moves the counter of its name by one, and every
other counter stays. -/
theorem select_roundRobin (counters : Table UInt64) (q : Question) :
    ∃ after, ((roundRobin counters).select q.1 q.2).2 = .roundRobin after ∧
      ∀ name, counter after name =
        counter counters name + if q.contested name then 1 else 0 := by
  rcases Nat.lt_or_ge q.2.length 2 with h | h
  · refine ⟨counters, select_of_length_lt _ h, fun name => ?_⟩
    simp [Question.contested, Nat.not_le.mpr h]
  · refine ⟨_, (select_of_two_le _ h).1, fun name => ?_⟩
    by_cases hname : q.1 = name
    · simp [counter, Question.contested, h, hname]
    · simp [counter, Question.contested, Std.ExtTreeMap.getElem?_insert, hname]

/-- The counter of a name has moved once for each choice that was made for it. -/
theorem counter_selectAll (counters : Table UInt64) (questions : List Question) :
    ∃ after, ((roundRobin counters).selectAll questions).2 = .roundRobin after ∧
      ∀ name, counter after name = counter counters name +
        UInt64.ofNat (questions.countP (Question.contested name)) := by
  induction questions generalizing counters with
  | nil => exact ⟨counters, rfl, fun name => (UInt64.add_zero _).symm⟩
  | cons q questions ih =>
    obtain ⟨middle, hselect, hmiddle⟩ := select_roundRobin counters q
    obtain ⟨after, hrest, hafter⟩ := ih middle
    refine ⟨after, by simpa only [selectAll, hselect] using hrest, fun name => ?_⟩
    rw [hafter, hmiddle, List.countP_cons, UInt64.ofNat_add, UInt64.add_assoc,
      UInt64.add_comm (UInt64.ofNat _)]
    split <;> rfl

/-- **The choices for a name go through the numbers from its counter on.** -/
theorem place_eq {questions : List Question} (k : Nat) (s : Selection)
    (h : (((roundRobin counters).selectAll questions).1.filter
      fun s => s.question.contested name)[k]? = some s) :
    s.place = some ((counter counters name + UInt64.ofNat k).toNat % s.question.2.length) := by
  induction questions generalizing counters k with
  | nil => simp [selectAll] at h
  | cons q questions ih =>
    obtain ⟨middle, hselect, hmiddle⟩ := select_roundRobin counters q
    simp only [selectAll, hselect] at h
    cases hq : q.contested name with
    | false =>
      rw [List.filter_cons_of_neg (by simp [hq])] at h
      rw [ih k h, hmiddle, hq, if_neg Bool.false_ne_true, UInt64.add_zero]
    | true =>
      rw [List.filter_cons_of_pos (by simpa using hq)] at h
      cases k with
      | zero =>
        obtain ⟨hname, htwo⟩ : q.1 = name ∧ 2 ≤ q.2.length := by
          simpa [Question.contested] using hq
        obtain rfl := Option.some.inj h
        rw [(select_of_two_le (roundRobin counters) htwo).2, ← hname]
        exact congrArg (fun n => some (UInt64.toNat n % q.2.length)) (UInt64.add_zero _).symm
      | succ k =>
        rw [ih k h, hmiddle, hq, if_pos rfl, UInt64.add_assoc, Nat.add_comm k, UInt64.ofNat_add]
        rfl

theorem questions_selectAll (b : Balancer) (questions : List Question) :
    (b.selectAll questions).1.map Selection.question = questions := by
  induction questions generalizing b with
  | nil => rfl
  | cons q questions ih => exact congrArg (q :: ·) (ih _)

theorem picked_selectAll {b : Balancer} {questions : List Question} {s : Selection}
    (h : s ∈ (b.selectAll questions).1) :
    s.picked = s.place.bind fun p => s.question.2[p]? := by
  induction questions generalizing b with
  | nil => cases h
  | cons q questions ih =>
    rcases List.mem_cons.mp h with rfl | h
    · exact b.select_eq_place q
    · exact ih h

/-- While the counter has not wrapped around, choices that follow one another go from place to
place. -/
theorem places_eq {questions : List Question}
    (few : questions.countP (Question.contested name) < UInt64.size)
    {before window after : List Selection}
    (h : (fresh.selectAll questions).1.filter (fun s => s.question.contested name) =
      before ++ window ++ after)
    {candidates : List ServiceInstance} (hsame : ∀ s ∈ window, s.question.2 = candidates) :
    window.map Selection.place =
      (List.range window.length).map fun i => some ((before.length + i) % candidates.length) := by
  have hlength : before.length + window.length + after.length < UInt64.size := by
    rw [← fresh.questions_selectAll questions, List.countP_map, List.countP_eq_length_filter,
      show (Question.contested name ∘ Selection.question) =
        fun s : Selection => s.question.contested name from rfl, h] at few
    simpa [Nat.add_assoc] using few
  refine List.ext_getElem (by simp) fun i hi _ => ?_
  have hi : i < window.length := by simpa using hi
  have hmem : ((fresh.selectAll questions).1.filter
      fun s => s.question.contested name)[before.length + i]? = some window[i] := by
    rw [h, List.append_assoc, List.getElem?_append_right (Nat.le_add_right ..),
      Nat.add_sub_cancel_left, List.getElem?_append_left hi, List.getElem?_eq_getElem hi]
  have hplace := place_eq _ _ hmem
  rw [counter_empty, UInt64.zero_add, UInt64.toNat_ofNat_of_lt' (by omega),
    hsame _ (List.getElem_mem hi)] at hplace
  simpa using hplace

end Balancer

/-- Numbers in a row leave every remainder equally often, give or take one. -/
theorem count_mod_eq (start length : Nat) {n p : Nat} (h : p < n) :
    let times := Nat.count (fun i => (start + i) % n = p) length
    times = length / n ∨ times = (length + (n - 1)) / n := by
  intro times
  have hn : 0 < n := Nat.zero_lt_of_lt h
  have hupTo : ∀ b, Nat.count (fun i => i % n = p) b = b / n + if p < b % n then 1 else 0 := by
    intro b
    have hcount := Nat.count_modEq_card b hn p
    simpa only [Nat.ModEq, Nat.mod_eq_of_lt h] using hcount
  have hsum : Nat.count (fun i => i % n = p) start + times =
      Nat.count (fun i => i % n = p) (start + length) := (Nat.count_add _ start length).symm
  have hceil : (length + (n - 1)) / n = length / n + if 0 < length % n then 1 else 0 := by
    rw [Nat.add_div hn, Nat.div_eq_of_lt (Nat.sub_one_lt_of_lt hn),
      Nat.mod_eq_of_lt (Nat.sub_one_lt_of_lt hn)]
    split <;> split <;> omega
  rw [hupTo, hupTo, Nat.add_div hn, Nat.add_mod] at hsum
  rw [hceil]
  have hstart := Nat.mod_lt start hn
  have hlength := Nat.mod_lt length hn
  -- the remainders start from that of `start`, and may pass zero on their way
  rcases Nat.lt_or_ge (start % n + length % n) n with hbelow | hover
  · rw [Nat.mod_eq_of_lt hbelow] at hsum
    split_ifs at hsum ⊢ <;> omega
  · have hpast : start % n + length % n - n < n := by omega
    rw [Nat.mod_eq_sub_mod hover, Nat.mod_eq_of_lt hpast] at hsum
    split_ifs at hsum ⊢ <;> omega

/-- **Round robin is fair.** A fresh balancer is asked any questions, about any names. Take some of
the choices for one name that follow one another, whatever came in between for other names or
without a choice, and that were made among the same candidates: they came to every place of the
list equally often, give or take one. The number of all choices for the name has to fit into a
word. What is picked stands at its place. Only choices are counted: of no candidate none is picked
and of one that one, and neither moves the balancer. -/
theorem round_robin_is_fair (questions : List Question) (name : String)
    (few : questions.countP (Question.contested name) < UInt64.size) :
    let selections := (Balancer.fresh.selectAll questions).1
    selections.map Selection.question = questions ∧
    (∀ (before window after : List Selection) (candidates : List ServiceInstance),
      selections.filter (fun s => s.question.contested name) = before ++ window ++ after →
      (∀ s ∈ window, s.question.2 = candidates) → ∀ p < candidates.length,
        let times := window.countP fun s => s.place = some p
        times = window.length / candidates.length ∨
          times = (window.length + (candidates.length - 1)) / candidates.length) ∧
    (∀ s ∈ selections, s.picked = s.place.bind fun p => s.question.2[p]?) ∧
    (∃ counters, (Balancer.fresh.selectAll questions).2 = .roundRobin counters ∧ ∀ other,
      Balancer.counter counters other =
        UInt64.ofNat (questions.countP (Question.contested other))) ∧
    ∀ (b : Balancer) (other : String), b.select other [] = (none, b) ∧
      ∀ only, b.select other [only] = (some only, b) := by
  intro selections
  refine ⟨Balancer.fresh.questions_selectAll questions, ?_,
    fun _ => Balancer.picked_selectAll, ?_, fun _ _ => ⟨rfl, fun _ => rfl⟩⟩
  case refine_2 =>
    obtain ⟨counters, hlast, hcounters⟩ := Balancer.counter_selectAll ∅ questions
    refine ⟨counters, hlast, fun other => ?_⟩
    rw [hcounters, Balancer.counter_empty, UInt64.zero_add]
  intro before window after candidates hsplit hsame p hp times
  have htimes : times =
      Nat.count (fun i => (before.length + i) % candidates.length = p) window.length := by
    have hcount : times = (window.map Selection.place).countP fun place => place = some p := by
      rw [List.countP_map]
      rfl
    rw [hcount, Balancer.places_eq few hsplit hsame, List.countP_map, Nat.count]
    simp [Function.comp_def]
  rw [htimes]
  exact count_mod_eq before.length window.length hp

/-- Three instances of the service `greeter`. -/
def Balancer.trio : List ServiceInstance :=
  ["left", "right", "middle"].map fun host => .ofHostPort "greeter" host 80

/-- Three choices for a name, the first one while there was a third candidate, with a look at a
single candidate and a choice for another name in between. -/
def Balancer.interview : List Question :=
  [("greeter", trio), ("greeter", trio.take 2), ("other", trio), ("greeter", trio.take 1),
    ("greeter", trio.take 2), ("greeter", [])]

theorem two_greeters_take_turns :
    Balancer.interview.countP (Question.contested "greeter") < UInt64.size ∧
    ∃ before window, (Balancer.fresh.selectAll Balancer.interview).1.filter
        (fun s => s.question.contested "greeter") = before ++ window ++ [] ∧
      window.length = 2 ∧ ∀ p < 2, (window.countP fun s => s.place = some p) = 1 := by
  have few : Balancer.interview.countP (Question.contested "greeter") < UInt64.size := by decide
  obtain ⟨-, hfair, -⟩ := round_robin_is_fair Balancer.interview "greeter" few
  obtain ⟨before, window, hsplit, hlength, hsame⟩ : ∃ before window : List Selection,
      (Balancer.fresh.selectAll Balancer.interview).1.filter
        (fun s => s.question.contested "greeter") = before ++ window ++ [] ∧ window.length = 2 ∧
      ∀ s ∈ window, s.question.2 = Balancer.trio.take 2 :=
    ⟨[⟨("greeter", Balancer.trio), some 0, Balancer.trio[0]?⟩],
      [⟨("greeter", Balancer.trio.take 2), some 1, Balancer.trio[1]?⟩,
        ⟨("greeter", Balancer.trio.take 2), some 0, Balancer.trio[0]?⟩], rfl, rfl, by simp⟩
  refine ⟨few, before, window, hsplit, hlength, fun p hp => ?_⟩
  have htimes := hfair before window [] (Balancer.trio.take 2) hsplit hsame p hp
  rw [hlength] at htimes
  exact or_self_iff.mp htimes

end RemoteCall
