/-
Paths that are the same.

Two paths are the same if they start in the same way and have the same steps; empty parts and single
dots in between make no difference. The key of a path is a path with nothing in it that makes no
difference, so it stands for all paths that are the same.

* `Path.key_eq_iff` — paths are the same exactly if their keys are.
-/
import RemoteCall.Config.FileTree
import RemoteCall.Proofs.Text.Pieces

namespace RemoteCall

namespace Path

/-- Two paths are the same: they start in the same way, and have the same steps. -/
def Same (path other : String) : Prop :=
  isAbsolute path = isAbsolute other ∧ isDotted path = isDotted other ∧ steps path = steps other

instance (path other : String) : Decidable (Same path other) :=
  inferInstanceAs (Decidable (_ ∧ _ ∧ _))

variable {path other step : String}

/-! ## Parts -/

theorem parts_eq_iff {pieces : List String} : parts path = pieces ↔
    pieces ≠ [] ∧ (∀ piece ∈ pieces, '/' ∉ piece.toList) ∧ "/".intercalate pieces = path :=
  Text.map_splitOn_eq_iff

theorem isAbsolute_iff : isAbsolute path = true ↔
    ∃ next more, parts path = "" :: next :: more := by
  rw [isAbsolute, parts, beq_iff_eq]
  cases path.toList with
  | nil => simp [Text.splitOn]
  | cons c rest =>
    obtain ⟨next, more, hrest⟩ := List.exists_cons_of_ne_nil
      (Text.splitOn_eq_iff.mp (Eq.refl (Text.splitOn '/' rest))).1
    rw [Text.splitOn, hrest, List.head?_cons, Option.some.injEq]
    by_cases hc : c = '/'
    · rw [if_pos hc]
      simp [hc]
    · rw [if_neg hc]
      simp [hc]

theorem of_mem_steps (h : step ∈ steps path) : step ≠ "" ∧ step ≠ "." ∧ '/' ∉ step.toList := by
  obtain ⟨hpart, hstep⟩ := List.mem_filter.mp h
  obtain ⟨hempty, hdot⟩ := (Bool.and_eq_true _ _).mp hstep
  exact ⟨of_decide_eq_true hempty, of_decide_eq_true hdot,
    (parts_eq_iff.mp (Eq.refl (parts path))).2.1 step hpart⟩

/-- The parts of a path that say where it starts. -/
def origin (path : String) : List String :=
  if isAbsolute path then [""] else if isDotted path then ["."] else []

/-- The steps of a path as parts: without any there is an empty one. -/
def tail (path : String) : List String :=
  if steps path = [] then [""] else steps path

theorem tail_ne_nil (path : String) : tail path ≠ [] := by
  unfold tail
  split
  · exact List.cons_ne_nil _ _
  · next hsteps => exact hsteps

theorem key_eq_intercalate (path : String) :
    key path = "/".intercalate (origin path ++ tail path) := by
  have hbody : "/".intercalate (tail path) = "/".intercalate (steps path) := by
    unfold tail
    split
    · next hsteps => rw [hsteps]; rfl
    · rfl
  rw [key, origin, ← hbody]
  split
  · rw [List.singleton_append, String.intercalate_cons_of_ne_nil (tail_ne_nil path)]
    rfl
  · split
    · rw [List.singleton_append, String.intercalate_cons_of_ne_nil (tail_ne_nil path)]
      rfl
    · rfl

theorem parts_key (path : String) : parts (key path) = origin path ++ tail path := by
  refine parts_eq_iff.mpr ⟨List.append_ne_nil_of_right_ne_nil _ (tail_ne_nil path), ?_,
    (key_eq_intercalate path).symm⟩
  intro piece hpiece
  rcases List.mem_append.mp hpiece with hpiece | hpiece
  · unfold origin at hpiece
    split at hpiece
    · rw [List.mem_singleton.mp hpiece]
      decide
    · split at hpiece
      · rw [List.mem_singleton.mp hpiece]
        decide
      · cases hpiece
  · unfold tail at hpiece
    split at hpiece
    · rw [List.mem_singleton.mp hpiece]
      decide
    · exact (of_mem_steps hpiece).2.2

theorem steps_key (path : String) : steps (key path) = steps path := by
  have horigin : (origin path).filter (fun part => part ≠ "" && part ≠ ".") = [] := by
    unfold origin
    split
    · rfl
    · split <;> rfl
  have htail : (tail path).filter (fun part => part ≠ "" && part ≠ ".") = steps path := by
    unfold tail
    split
    · next hsteps => rw [hsteps]; rfl
    · exact List.filter_eq_self.mpr fun _ hstep => (List.mem_filter.mp hstep).2
  rw [steps, parts_key, List.filter_append, horigin, htail, List.nil_append]

/-- Behind nothing but its steps a path has neither an empty first part nor a dot there. -/
theorem head?_tail (path : String) : (∀ next more, tail path ≠ "" :: next :: more) ∧
    (tail path).head? ≠ some "." := by
  unfold tail
  split
  · simp
  · next hsteps =>
    obtain ⟨first, rest, heq⟩ := List.exists_cons_of_ne_nil hsteps
    obtain ⟨hempty, hdot, -⟩ := of_mem_steps (heq ▸ List.mem_cons_self)
    rw [heq]
    exact ⟨fun _ _ h => hempty (List.cons.inj h).1, fun h => hdot (Option.some.inj h)⟩

theorem isDotted_of_isAbsolute (h : isAbsolute path = true) : isDotted path = false := by
  obtain ⟨next, more, hparts⟩ := isAbsolute_iff.mp h
  rw [isDotted, hparts]
  rfl

theorem isAbsolute_key (path : String) : isAbsolute (key path) = isAbsolute path := by
  rw [Bool.eq_iff_iff, isAbsolute_iff, parts_key, origin]
  cases habsolute : isAbsolute path with
  | true =>
    obtain ⟨next, more, htail⟩ := List.exists_cons_of_ne_nil (tail_ne_nil path)
    simp [htail]
  | false =>
    cases isDotted path with
    | true => simp
    | false => simpa using (head?_tail path).1

theorem isDotted_key (path : String) : isDotted (key path) = isDotted path := by
  rw [isDotted, parts_key, origin]
  cases habsolute : isAbsolute path with
  | true =>
    rw [isDotted_of_isAbsolute habsolute]
    rfl
  | false =>
    cases isDotted path with
    | true => rfl
    | false => simpa using (head?_tail path).2

theorem key_eq_iff : key path = key other ↔ Same path other := by
  constructor
  · intro h
    refine ⟨?_, ?_, ?_⟩
    · rw [← isAbsolute_key path, h, isAbsolute_key]
    · rw [← isDotted_key path, h, isDotted_key]
    · rw [← steps_key path, h, steps_key]
  · rintro ⟨habsolute, hdotted, hsteps⟩
    rw [key, key, habsolute, hdotted, hsteps]

end Path

end RemoteCall
