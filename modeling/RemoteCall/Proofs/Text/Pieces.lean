/-
Texts that are cut at a mark.

* `Text.splitOn_eq_iff` — the pieces of a text are the only texts without the mark that, put
  together with a mark in between, make up the text.
* `Text.splitLast?_eq_some_iff` — a text is cut at its last mark: what stands behind it holds none.
-/
import RemoteCall.Text.Trim

namespace RemoteCall.Text

variable {mark : Char} {text piece before behind : List Char} {pieces : List (List Char)}

/-! ## At every mark -/

theorem splitOn_eq (mark : Char) (text : List Char) : splitOn mark text = text.splitOn mark := by
  induction text with
  | nil => rfl
  | cons c rest ih =>
    rw [splitOn, ih, List.splitOn_cons_eq_if_modifyHead]
    simp only [beq_iff_eq]
    split
    · rfl
    · cases h : rest.splitOn mark with
      | nil => exact absurd h (List.splitOn_ne_nil mark rest)
      | cons piece pieces => rfl

theorem not_mem_of_mem_splitOn (h : piece ∈ splitOn mark text) : mark ∉ piece := by
  induction text generalizing piece with
  | nil =>
    rw [List.mem_singleton.mp h]
    exact List.not_mem_nil
  | cons c rest ih =>
    rw [splitOn] at h
    split at h
    · rcases List.mem_cons.mp h with rfl | h
      · exact List.not_mem_nil
      · exact ih h
    · next hc =>
      cases hrest : splitOn mark rest with
      | nil =>
        rw [hrest] at h
        rw [List.mem_singleton.mp h]
        exact List.not_mem_cons_of_ne_of_not_mem (Ne.symm hc) List.not_mem_nil
      | cons first pieces =>
        simp only [hrest] at h ih
        rcases List.mem_cons.mp h with rfl | h
        · exact List.not_mem_cons_of_ne_of_not_mem (Ne.symm hc) (ih List.mem_cons_self)
        · exact ih (List.mem_cons_of_mem first h)

/-- The pieces of a text, without reference to how they are found. -/
theorem splitOn_eq_iff : splitOn mark text = pieces ↔
    pieces ≠ [] ∧ (∀ piece ∈ pieces, mark ∉ piece) ∧ [mark].intercalate pieces = text := by
  constructor
  · rintro rfl
    refine ⟨?_, fun _ => not_mem_of_mem_splitOn, ?_⟩
    · rw [splitOn_eq]
      exact List.splitOn_ne_nil mark text
    · rw [splitOn_eq]
      exact List.intercalate_splitOn mark
  · rintro ⟨hsome, hclean, rfl⟩
    rw [splitOn_eq]
    exact List.splitOn_intercalate mark hclean hsome

/-- The same for texts that are no lists. -/
theorem map_splitOn_eq_iff {text : String} {pieces : List String} :
    (splitOn mark text.toList).map String.ofList = pieces ↔
      pieces ≠ [] ∧ (∀ piece ∈ pieces, mark ∉ piece.toList) ∧
        (String.singleton mark).intercalate pieces = text := by
  have hlists : (splitOn mark text.toList).map String.ofList = pieces ↔
      splitOn mark text.toList = pieces.map String.toList := by
    constructor
    · rintro rfl
      simp
    · intro h
      rw [h]
      simp
  rw [hlists, splitOn_eq_iff, List.forall_mem_map, ← String.toList_inj, String.toList_intercalate,
    String.toList_singleton, ne_eq, List.map_eq_nil_iff]

/-! ## At the last mark -/

theorem splitLast?_eq_none_iff : splitLast? mark text = none ↔ mark ∉ text := by
  induction text with
  | nil => simp [splitLast?]
  | cons c rest ih =>
    rw [splitLast?, List.mem_cons, not_or, ← ih]
    cases splitLast? mark rest with
    | none => simp [eq_comm]
    | some parts => simp

theorem splitLast?_append (before : List Char) (h : mark ∉ behind) :
    splitLast? mark (before ++ mark :: behind) = some (before, behind) := by
  induction before with
  | nil => rw [List.nil_append, splitLast?, splitLast?_eq_none_iff.mpr h, if_pos rfl]
  | cons c before ih => rw [List.cons_append, splitLast?, ih]

theorem splitLast?_eq_some_iff : splitLast? mark text = some (before, behind) ↔
    text = before ++ mark :: behind ∧ mark ∉ behind := by
  refine ⟨fun h => ?_, fun ⟨htext, hbehind⟩ => htext ▸ splitLast?_append before hbehind⟩
  induction text generalizing before with
  | nil => cases h
  | cons c rest ih =>
    rw [splitLast?] at h
    cases hrest : splitLast? mark rest with
    | some parts =>
      rw [hrest] at h
      cases h
      obtain ⟨htext, hbehind⟩ := ih hrest
      exact ⟨congrArg (c :: ·) htext, hbehind⟩
    | none =>
      rw [hrest] at h
      by_cases hc : c = mark
      · rw [if_pos hc] at h
        cases h
        exact ⟨congrArg (· :: behind) hc, splitLast?_eq_none_iff.mp hrest⟩
      · rw [if_neg hc] at h
        cases h

end RemoteCall.Text
