import PlatformLink.Text.Split

/-!
# Pieces of a text

A separator at the end of a text makes a last piece that is empty, and each one that is put behind
it makes one piece more.
-/

namespace PlatformLink.Text

/-! ## Cutting at a character -/

section Cut

variable {p : Char → Bool} {c : Char}

theorem takeWhile_append_cons (hc : p c = false) (a b : List Char) :
    (a ++ c :: b).takeWhile p = a.takeWhile p := by
  induction a with
  | nil =>
    rw [List.nil_append, List.takeWhile_cons_of_neg (by simp [hc]), List.takeWhile_nil]
  | cons d a ih =>
    rw [List.cons_append, List.takeWhile_cons, List.takeWhile_cons, ih]

theorem takeWhile_append_replicate (hc : p c = false) (cs : List Char) (n : Nat) :
    (cs ++ List.replicate n c).takeWhile p = cs.takeWhile p := by
  cases n with
  | zero => rw [List.replicate_zero, List.append_nil]
  | succ n => rw [List.replicate_succ, takeWhile_append_cons hc]

theorem dropWhile_append_replicate (hc : p c = false) (cs : List Char) (n : Nat) :
    (cs ++ List.replicate n c).dropWhile p = cs.dropWhile p ++ List.replicate n c := by
  rw [List.dropWhile_append]
  split
  next hempty =>
    rw [List.isEmpty_iff.mp hempty, List.nil_append]
    cases n with
    | zero => rfl
    | succ n => exact List.dropWhile_cons_of_neg (by simp [hc])
  next => rfl

end Cut

/-! ## Splitting -/

variable {sep : Char}

theorem splitOn_replicate (sep : Char) (n : Nat) :
    splitOn sep (List.replicate n sep) = List.replicate (n + 1) [] := by
  induction n with
  | zero => rfl
  | succ n ih => rw [List.replicate_succ, splitOn, if_pos rfl, ih, ← List.replicate_succ]

theorem splitOn_append_replicate (sep : Char) (cs : List Char) (n : Nat) :
    splitOn sep (cs ++ List.replicate (n + 1) sep) =
      splitOn sep cs ++ List.replicate (n + 1) [] := by
  rw [List.replicate_succ, splitOn_append_cons, splitOn_replicate]

/-- Pieces without the separator come back when they are joined and split. -/
theorem splitOn_intercalate {ws : List (List Char)} (hne : ws ≠ []) (h : ∀ w ∈ ws, sep ∉ w) :
    splitOn sep ([sep].intercalate ws) = ws := by
  induction ws with
  | nil => exact absurd rfl hne
  | cons w ws ih =>
    obtain ⟨hw, hws⟩ := List.forall_mem_cons.mp h
    cases ws with
    | nil => rw [List.intercalate_singleton, splitOn_of_not_mem hw]
    | cons v vs =>
      rw [List.intercalate_cons_cons, List.append_assoc, List.singleton_append,
        splitOn_append_cons, splitOn_of_not_mem hw, ih (List.cons_ne_nil v vs) hws]
      rfl

theorem split_intercalate {ws : List String} (hne : ws ≠ []) (h : ∀ w ∈ ws, sep ∉ w.toList) :
    split sep ((String.singleton sep).intercalate ws) = ws := by
  have hpieces : ∀ w ∈ ws.map String.toList, sep ∉ w := by
    intro w hw
    obtain ⟨v, hv, rfl⟩ := List.mem_map.mp hw
    exact h v hv
  rw [split, String.toList_intercalate, String.toList_singleton,
    splitOn_intercalate (by simpa using hne) hpieces, List.map_map]
  simp

theorem subset_of_mem_splitOn {w cs : List Char} (h : w ∈ splitOn sep cs) : w ⊆ cs := by
  induction cs generalizing w with
  | nil => simp [List.mem_singleton.mp h]
  | cons c cs ih =>
    rw [splitOn] at h
    split at h
    · rcases List.mem_cons.mp h with rfl | h
      · exact List.nil_subset _
      · exact List.subset_cons_of_subset c (ih h)
    · obtain ⟨v, vs, hs⟩ := List.exists_cons_of_ne_nil (splitOn_ne_nil sep cs)
      simp only [hs, List.mem_cons] at h ih
      rcases h with rfl | h
      · exact List.cons_subset_cons c (ih (Or.inl rfl))
      · exact List.subset_cons_of_subset c (ih (Or.inr h))

theorem joinWith_concat_nil {ws : List (List Char)} (h : ws ≠ []) :
    joinWith sep (ws ++ [[]]) = joinWith sep ws ++ [sep] := by
  induction ws with
  | nil => exact absurd rfl h
  | cons w ws ih =>
    cases ws with
    | nil => rfl
    | cons v vs =>
      have hrest : joinWith sep (v :: vs ++ [[]]) = joinWith sep (v :: vs) ++ [sep] :=
        ih (List.cons_ne_nil v vs)
      have hcons (us : List (List Char)) :
          joinWith sep (w :: v :: us) = w ++ sep :: joinWith sep (v :: us) := rfl
      simp only [List.cons_append] at hrest ⊢
      rw [hcons, hcons, hrest, List.append_assoc, List.cons_append]

/-- The last piece is empty where there is nothing, or nothing behind the last separator. -/
theorem last_splitOn_eq_nil_iff {cs w : List Char} {ws : List (List Char)}
    (h : splitOn sep cs = ws ++ [w]) : w = [] ↔ cs = [] ∨ cs.getLast? = some sep := by
  constructor
  · rintro rfl
    have hjoin := joinWith_splitOn sep cs
    rw [h] at hjoin
    by_cases hws : ws = []
    · subst hws
      exact Or.inl hjoin.symm
    · rw [joinWith_concat_nil hws] at hjoin
      rw [← hjoin, List.getLast?_concat]
      exact Or.inr rfl
  · rintro (rfl | hlast)
    · simpa [splitOn_nil] using congrArg List.getLast? h.symm
    · obtain ⟨init, rfl⟩ := List.getLast?_eq_some_iff.mp hlast
      rw [splitOn_append_cons, splitOn_nil] at h
      simpa using congrArg List.getLast? h.symm

end PlatformLink.Text
