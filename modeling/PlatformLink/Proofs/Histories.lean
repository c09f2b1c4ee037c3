import Mathlib.Data.List.Basic

/-!
# Histories

A history is a list that grows at its end. What is said of each of its entries and of what came
before that entry is kept when an entry is added, as soon as it can be said of the entry that is
new.
-/

namespace PlatformLink

variable {α : Type} {xs before after : List α} {x y : α}

/-- An entry of a history that has grown is the new one, or it was there before. -/
theorem concat_eq_append_cons_iff : xs ++ [x] = before ++ y :: after ↔
    (before = xs ∧ y = x ∧ after = []) ∨
      ∃ rest, after = rest ++ [x] ∧ xs = before ++ y :: rest := by
  constructor
  · intro h
    rcases List.eq_nil_or_concat after with rfl | ⟨rest, last, rfl⟩
    · obtain ⟨rfl, hlast⟩ := List.append_inj' h rfl
      exact .inl ⟨rfl, (List.singleton_inj.mp hlast).symm, rfl⟩
    · rw [List.concat_eq_append, ← List.cons_append, ← List.append_assoc] at h
      obtain ⟨rfl, hlast⟩ := List.append_inj' h rfl
      rw [List.concat_eq_append, List.singleton_inj.mp hlast]
      exact .inr ⟨rest, rfl, rfl⟩
  · rintro (⟨rfl, rfl, rfl⟩ | ⟨rest, rfl, rfl⟩)
    · rfl
    · rw [List.append_assoc, List.cons_append]

/-- What holds of every entry with what came before it. -/
theorem forall_split_concat_iff {P : List α → α → Prop} :
    (∀ before y after, xs ++ [x] = before ++ y :: after → P before y) ↔
      (∀ before y after, xs = before ++ y :: after → P before y) ∧ P xs x := by
  constructor
  · intro h
    refine ⟨fun before y after hxs => ?_, h xs x [] rfl⟩
    exact h before y (after ++ [x]) (concat_eq_append_cons_iff.mpr (.inr ⟨after, rfl, hxs⟩))
  · rintro ⟨hold, hnew⟩ before y after h
    rcases concat_eq_append_cons_iff.mp h with ⟨rfl, rfl, -⟩ | ⟨rest, -, hxs⟩
    · exact hnew
    · exact hold before y rest hxs

end PlatformLink
