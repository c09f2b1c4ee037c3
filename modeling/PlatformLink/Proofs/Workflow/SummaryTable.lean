import Mathlib.Data.List.Dedup
import PlatformLink.Workflow.SummaryStore

/-!
# The summaries held in memory

Creating adds a key that is free and updating replaces what stands under a key that is taken; each
of them otherwise leaves the table as it is and says why. What is written stands under its key
alone.
-/

namespace PlatformLink.Workflow

namespace SummaryTable

variable {t : SummaryTable} {key other : SummaryKey} {s old : WorkflowSummary}

def keys (t : SummaryTable) : List SummaryKey :=
  t.entries.map (·.1)

theorem size_eq_length_keys (t : SummaryTable) : t.size = t.keys.length := by
  simp [size, keys]

theorem get?_eq_none_iff : t.get? key = none ↔ key ∉ t.keys := by
  simp only [get?, keys, Option.map_eq_none_iff, List.find?_eq_none, decide_eq_true_eq,
    List.mem_map, not_exists, not_and]

theorem create_of_none (h : t.get? key = none) (s : WorkflowSummary) :
    t.create key s = (.ok (), ⟨t.entries ++ [(key, s)]⟩) := by
  simp [create, h]

theorem create_of_some (h : t.get? key = some old) (s : WorkflowSummary) :
    t.create key s = (.error (.conflict (.summary key.text)), t) := by
  simp [create, h]

theorem update_of_none (h : t.get? key = none) (s : WorkflowSummary) :
    t.update key s = (.error (.notFound (.summary key.text)), t) := by
  simp [update, h]

theorem update_of_some (h : t.get? key = some old) (s : WorkflowSummary) :
    t.update key s =
      (.ok (), ⟨t.entries.map fun e => if e.1 = key then (key, s) else e⟩) := by
  simp [update, h]

/-! ## The steps as calls -/

theorem perform_asCall {α : Type} (f : SummaryTable → Outcome α × SummaryTable)
    (t : SummaryTable) : (asCall f).perform t = ((f t).1.mapError .failed, (f t).2) := by
  change asCall f t = _
  rw [asCall]
  rcases f t with ⟨e | a, t'⟩ <;> rfl

theorem perform_create_of_none (h : t.get? key = none) (s : WorkflowSummary) :
    (store.create key s).perform t = (.ok (), (t.create key s).2) := by
  rw [store, perform_asCall, create_of_none h]
  rfl

theorem perform_create_of_some (h : t.get? key = some old) (s : WorkflowSummary) :
    (store.create key s).perform t =
      (.error (.failed (.conflict (.summary key.text))), t) := by
  rw [store, perform_asCall, create_of_some h]
  rfl

theorem perform_update_of_none (h : t.get? key = none) (s : WorkflowSummary) :
    (store.update key s).perform t =
      (.error (.failed (.notFound (.summary key.text))), t) := by
  rw [store, perform_asCall, update_of_none h]
  rfl

theorem perform_update_of_some (h : t.get? key = some old) (s : WorkflowSummary) :
    (store.update key s).perform t = (.ok (), (t.update key s).2) := by
  rw [store, perform_asCall, update_of_some h]
  rfl

theorem perform_read (t : SummaryTable) (key : SummaryKey) :
    (store.read key).perform t = (.ok (t.get? key), t) := rfl

/-! ## What is held after a write -/

theorem get?_create (h : t.get? key = none) :
    (t.create key s).2.get? other = if other = key then some s else t.get? other := by
  rw [create_of_none h]
  by_cases hother : other = key
  · subst hother
    have hfind : t.entries.find? (·.1 = other) = none := by simpa [get?] using h
    simp [get?, hfind]
  · simp [get?, hother, Ne.symm hother]

theorem fst_replaced (key : SummaryKey) (s : WorkflowSummary) (e : SummaryKey × WorkflowSummary) :
    (if e.1 = key then (key, s) else e).1 = e.1 := by
  split_ifs with h
  · exact h.symm
  · rfl

theorem get?_update (h : t.get? key = some old) :
    (t.update key s).2.get? other = if other = key then some s else t.get? other := by
  have hfind : (fun e : SummaryKey × WorkflowSummary =>
      decide ((if e.1 = key then (key, s) else e).1 = other)) = fun e => decide (e.1 = other) := by
    funext e
    rw [fst_replaced]
  rw [update_of_some h, get?, List.find?_map, Function.comp_def, hfind]
  by_cases hother : other = key
  · subst hother
    obtain ⟨e, he, rfl⟩ := Option.map_eq_some_iff.mp h
    have hkey : e.1 = other := by simpa using List.find?_some he
    simp [he, hkey]
  · rw [if_neg hother, get?]
    cases he : t.entries.find? (·.1 = other) with
    | none => rfl
    | some e =>
      have hkey : e.1 = other := by simpa using List.find?_some he
      have hne : e.1 ≠ key := by rwa [hkey]
      simp [hne]

theorem keys_create (h : t.get? key = none) : (t.create key s).2.keys = t.keys ++ [key] := by
  simp [create_of_none h, keys]

theorem keys_update (h : t.get? key = some old) : (t.update key s).2.keys = t.keys := by
  simp [update_of_some h, keys, Function.comp_def, fst_replaced]

end SummaryTable

end PlatformLink.Workflow
