/-
White space and ASCII case, as far as they tell texts apart.

* `Text.trimChars_append` — white space around a text goes, whatever the text is.
* `Text.trim_lower` — it makes no difference whether a text is trimmed first or put in lower case
  first.
* `Text.Spells` — a spelling of a name: in any case, and with any white space around it.
* `Text.lower_trim_of_spells` — the spellings of a name all come to the same, trimmed and in lower
  case.
-/
import Mathlib.Data.List.DropRight
import RemoteCall.Text.Trim

namespace RemoteCall.Text

/-! ## White space -/

theorem dropWhile_dropEndWhile {p : Char → Bool} {text : List Char}
    (h : text.dropWhile p = text) : (dropEndWhile p text).dropWhile p = dropEndWhile p text := by
  cases hrest : dropEndWhile p text with
  | nil => rfl
  | cons c rest =>
    obtain ⟨behind, hbehind⟩ : dropEndWhile p text <+: text := List.rdropWhile_prefix p text
    rw [hrest, List.cons_append] at hbehind
    have hkept : ¬p c = true := by
      intro hc
      rw [← hbehind, List.dropWhile_cons_of_pos hc] at h
      have hshorter := (List.dropWhile_suffix p (l := rest ++ behind)).length_le
      rw [h, List.length_cons] at hshorter
      omega
    exact List.dropWhile_cons_of_neg hkept

theorem trimChars_trimChars (text : List Char) : trimChars (trimChars text) = trimChars text := by
  unfold trimChars
  rw [dropWhile_dropEndWhile (List.dropWhile_idempotent _ _)]
  exact List.rdropWhile_idempotent _ _

theorem trim_trim (text : String) : trim (trim text) = trim text := by
  simp only [trim, String.toList_ofList, trimChars_trimChars]

/-- Nothing is left of a text exactly if there is nothing but white space in it. -/
theorem trimChars_eq_nil_iff {text : List Char} :
    trimChars text = [] ↔ ∀ c ∈ text, isWhite c = true := by
  unfold trimChars
  constructor
  · intro h
    have hwhite : ∀ c ∈ text.dropWhile isWhite, isWhite c = true := List.rdropWhile_eq_nil_iff.mp h
    refine List.dropWhile_eq_nil_iff.mp ?_
    cases hrest : text.dropWhile isWhite with
    | nil => rfl
    | cons c rest =>
      have hne : text.dropWhile isWhite ≠ [] := hrest ▸ List.cons_ne_nil c rest
      exact absurd (hwhite _ (List.head_mem hne))
        (Bool.eq_false_iff.mp (List.head_dropWhile_not isWhite hne))
  · intro h
    rw [List.dropWhile_eq_nil_iff.mpr h]
    rfl

theorem trim_eq_empty_iff {text : String} : trim text = "" ↔ isBlank text = true := by
  rw [isBlank, List.all_eq_true, ← trimChars_eq_nil_iff, trim, ← String.toList_inj,
    String.toList_ofList]
  rfl

/-- White space around a text goes. -/
theorem trimChars_append {before after : List Char} (hbefore : ∀ c ∈ before, isWhite c = true)
    (hafter : ∀ c ∈ after, isWhite c = true) (text : List Char) :
    trimChars (before ++ text ++ after) = trimChars text := by
  unfold trimChars
  rw [List.append_assoc, List.dropWhile_append_of_pos hbefore, List.dropWhile_append]
  split
  · next hnothing =>
    rw [List.isEmpty_iff.mp hnothing, List.dropWhile_eq_nil_iff.mpr hafter]
  · rw [dropEndWhile, List.reverse_append, List.dropWhile_append_of_pos (by simpa using hafter),
      dropEndWhile]

/-- A text without white space at its ends stays as it is. -/
theorem trimChars_of_ends {text : List Char} (front : ∀ c ∈ text.head?, isWhite c = false)
    (back : ∀ c ∈ text.getLast?, isWhite c = false) : trimChars text = text := by
  have hfront : text.dropWhile isWhite = text := by
    cases text with
    | nil => rfl
    | cons c rest => exact List.dropWhile_cons_of_neg (Bool.eq_false_iff.mp (front c rfl))
  rw [trimChars, hfront]
  exact List.rdropWhile_eq_self_iff.mpr fun hne =>
    Bool.eq_false_iff.mp (back _ (List.getLast?_eq_some_getLast hne))

theorem isWhite_of_mem_head?_trimChars {text : List Char} {c : Char}
    (h : c ∈ (trimChars text).head?) : isWhite c = false := by
  have hkept : (trimChars text).dropWhile isWhite = trimChars text :=
    dropWhile_dropEndWhile (List.dropWhile_idempotent _ _)
  have hhead := List.head?_dropWhile_not isWhite (trimChars text)
  rw [hkept, h] at hhead
  exact hhead

/-- A digit is no white space. -/
theorem isWhite_of_isDigit {c : Char} (h : c.isDigit = true) : isWhite c = false := by
  obtain ⟨hlow, hhigh⟩ := Char.isDigit_iff_toNat.mp h
  simp only [isWhite, whiteSpaceRanges, List.any_cons, List.any_nil]
  grind

theorem trimChars_sublist (text : List Char) : (trimChars text).Sublist text :=
  (List.rdropWhile_prefix isWhite (text.dropWhile isWhite)).sublist.trans
    (List.dropWhile_sublist isWhite)

/-! ## Case -/

/-- A letter is no white space, in either case. -/
theorem isWhite_lowerChar (c : Char) : isWhite (lowerChar c) = isWhite c := by
  unfold lowerChar
  split
  · next hcapital =>
    obtain ⟨hlow, hhigh⟩ : 65 ≤ c.toNat ∧ c.toNat ≤ 90 := hcapital
    have hvalid : (c.toNat + 32).isValidChar := .inl (by omega)
    have hsmall : (Char.ofNat (c.toNat + 32)).toNat = c.toNat + 32 := by
      rw [Char.ofNat, dif_pos hvalid]
      rfl
    simp only [isWhite, whiteSpaceRanges, List.any_cons, List.any_nil, hsmall]
    grind
  · rfl

theorem trimChars_map_lowerChar (text : List Char) :
    trimChars (text.map lowerChar) = (trimChars text).map lowerChar := by
  have hwhite : isWhite ∘ lowerChar = isWhite := funext isWhite_lowerChar
  simp only [trimChars, dropEndWhile, List.dropWhile_map, ← List.map_reverse, hwhite]

theorem trim_lower (text : String) : trim (lower text) = lower (trim text) := by
  simp only [trim, lower, String.toList_ofList, trimChars_map_lowerChar]

/-- White space cannot hide in a change of case. -/
theorem trim_eq_self_of_lower_trim {text : String} (h : lower (trim text) = lower text) :
    trim text = text := by
  have hlength := congrArg (fun t => t.toList.length) h
  simp only [lower, trim, String.toList_ofList, List.length_map] at hlength
  rw [trim, (trimChars_sublist text.toList).eq_of_length hlength, String.ofList_toList]

/-! ## Spellings -/

/-- The text is the name in some ASCII case, with some white space around it. -/
def Spells (name text : String) : Prop :=
  ∃ before word after, text.toList = before ++ word ++ after ∧
    (∀ c ∈ before, isWhite c = true) ∧ (∀ c ∈ after, isWhite c = true) ∧
    word.map lowerChar = name.toList.map lowerChar

theorem Spells.refl (name : String) : Spells name name :=
  ⟨[], name.toList, [], (List.append_nil _).symm, nofun, nofun, rfl⟩

theorem lower_trim_of_spells {name text : String} (h : Spells name text) :
    lower (trim text) = lower (trim name) := by
  obtain ⟨before, word, after, htext, hbefore, hafter, hword⟩ := h
  rw [← trim_lower, ← trim_lower, trim, trim, lower, lower, String.toList_ofList,
    String.toList_ofList, ← hword, trimChars_map_lowerChar, trimChars_map_lowerChar, htext,
    trimChars_append hbefore hafter]

end RemoteCall.Text
