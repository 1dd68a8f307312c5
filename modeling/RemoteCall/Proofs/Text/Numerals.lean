/-
What a numeral stands for.

* `Text.Denotes` — a text is a numeral of a number: at least one digit, any zeros in front of them,
  and perhaps a plus sign in front of all.
* `Text.natural?_eq_ok_iff` — a reader with a limit finds exactly the numbers up to this limit.
* `Text.denotes_toDigits` — a number in decimal is one of its numerals.
-/
import RemoteCall.Text.Numeral

namespace RemoteCall.Text

/-- A text of at least one digit, perhaps behind a plus sign, is a numeral of the number that these
digits have as their value. -/
def Denotes (text : List Char) (n : Nat) : Prop :=
  ∃ digits, (text = digits ∨ text = '+' :: digits) ∧ digits ≠ [] ∧
    (∀ c ∈ digits, c.isDigit = true) ∧ Nat.ofDigitChars 10 digits 0 = n

variable {text digits : List Char} {limit seen n : Nat}

/-! ## Digits -/

/-- More digits do not make a value smaller, so a value that is too large remains so. -/
theorem le_ofDigitChars (digits : List Char) (seen : Nat) :
    seen ≤ Nat.ofDigitChars 10 digits seen := by
  induction digits generalizing seen with
  | nil => exact Nat.le_of_eq Nat.ofDigitChars_nil.symm
  | cons c rest ih =>
    rw [Nat.ofDigitChars_cons]
    exact Nat.le_trans (by omega) (ih _)

/-- The reader keeps to its limit as it goes, which is the same as keeping to it at the end. -/
theorem go_eq_ok_iff (within : seen ≤ limit) : natural?.go limit seen digits = .ok n ↔
    (∀ c ∈ digits, c.isDigit = true) ∧ Nat.ofDigitChars 10 digits seen = n ∧ n ≤ limit := by
  induction digits generalizing seen with
  | nil =>
    rw [natural?.go, Nat.ofDigitChars_nil]
    constructor
    · rintro ⟨⟩
      exact ⟨nofun, rfl, within⟩
    · rintro ⟨-, rfl, -⟩
      rfl
  | cons c rest ih =>
    rw [natural?.go, decimalDigit?, Nat.ofDigitChars_cons, Nat.mul_comm 10 seen,
      List.forall_mem_cons]
    cases hc : c.isDigit with
    | false => simp
    | true =>
      simp only [if_true, true_and]
      by_cases hlarge : limit < seen * 10 + (c.toNat - 48)
      · have hgrows := le_ofDigitChars rest (seen * 10 + (c.toNat - 48))
        simp only [hlarge, if_true, reduceCtorEq, false_iff]
        rintro ⟨-, rfl, hle⟩
        exact absurd (Nat.le_trans hgrows hle) (Nat.not_le_of_lt hlarge)
      · rw [if_neg hlarge]
        exact ih (Nat.le_of_not_lt hlarge)

/-! ## Numerals -/

/-- No other character has a place in a numeral. -/
theorem isDigit_of_mem_denotes {c : Char} (h : Denotes text n) (hc : c ∈ text) :
    c = '+' ∨ c.isDigit = true := by
  obtain ⟨digits, rfl | rfl, -, hdigits, -⟩ := h
  · exact .inr (hdigits c hc)
  · rcases List.mem_cons.mp hc with rfl | hc
    · exact .inl rfl
    · exact .inr (hdigits c hc)

theorem Denotes.ne_nil (h : Denotes text n) : text ≠ [] := by
  obtain ⟨digits, rfl | rfl, hsome, -, -⟩ := h
  · exact hsome
  · exact List.cons_ne_nil _ _

theorem denotes_plus_iff : Denotes ('+' :: digits) n ↔
    digits ≠ [] ∧ (∀ c ∈ digits, c.isDigit = true) ∧ Nat.ofDigitChars 10 digits 0 = n := by
  constructor
  · rintro ⟨those, h | h, hrest⟩
    · -- a plus sign is no digit itself
      exact absurd (hrest.2.1 '+' (h ▸ List.mem_cons_self)) (by decide)
    · obtain ⟨-, rfl⟩ := List.cons.inj h
      exact hrest
  · exact fun h => ⟨digits, .inr rfl, h⟩

theorem denotes_iff_of_ne_plus (h : ∀ rest, text ≠ '+' :: rest) : Denotes text n ↔
    text ≠ [] ∧ (∀ c ∈ text, c.isDigit = true) ∧ Nat.ofDigitChars 10 text 0 = n := by
  constructor
  · rintro ⟨digits, rfl | heq, hrest⟩
    · exact hrest
    · exact absurd heq (h digits)
  · exact fun hdigits => ⟨text, .inl rfl, hdigits⟩

/-- What is read is the number that the text is a numeral of, and it is read if it is not beyond
the limit. -/
theorem natural?_eq_ok_iff : natural? limit text = .ok n ↔ Denotes text n ∧ n ≤ limit := by
  by_cases hplus : ∃ rest, text = '+' :: rest
  · obtain ⟨rest, rfl⟩ := hplus
    have hread : natural? limit ('+' :: rest) =
        if rest = [] then .error .invalidDigit else natural?.go limit 0 rest := by
      rw [natural?, if_neg (List.cons_ne_nil '+' rest)]
    rw [hread, denotes_plus_iff]
    by_cases hrest : rest = []
    · simp [hrest]
    · rw [if_neg hrest, go_eq_ok_iff (Nat.zero_le limit)]
      simp only [ne_eq, hrest, not_false_eq_true, true_and, and_assoc]
  · have hplain := not_exists.mp hplus
    have hread : natural? limit text =
        if text = [] then .error .empty else natural?.go limit 0 text := by
      unfold natural?
      split
      · next rest => exact absurd rfl (hplain rest)
      · by_cases htext : text = []
        · simp [htext]
        · simp [htext]
    rw [hread, denotes_iff_of_ne_plus hplain]
    by_cases htext : text = []
    · simp [htext]
    · rw [if_neg htext, go_eq_ok_iff (Nat.zero_le limit)]
      simp only [ne_eq, htext, not_false_eq_true, true_and, and_assoc]

/-- A number in decimal is a numeral of it. -/
theorem denotes_toDigits (n : Nat) : Denotes (Nat.toDigits 10 n) n := by
  refine ⟨_, .inl rfl, Nat.toDigits_ne_nil, fun c hc => ?_, Nat.ofDigitChars_ten_toDigits⟩
  exact Nat.isDigit_of_mem_toDigits (by decide) (by decide) hc

end RemoteCall.Text
