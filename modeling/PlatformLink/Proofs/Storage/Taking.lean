import Mathlib.Data.List.Basic
import PlatformLink.Storage.Queue

/-!
# Taking what is visible

A take goes through the messages from the front and picks out those that are visible, up to a
number. It comes to this: the messages fall into a front and a back, the visible messages of the
front are taken, and its hidden messages stay before the whole back (`takeVisible_split`). All else
follows, the agreement with what can be seen as well.
-/

namespace PlatformLink.Storage

variable {now most : Nat} {m : QueuedMessage} {rest : List QueuedMessage}

theorem takeVisible_cons_of_due (h : 0 < most ∧ m.isVisible now) :
    takeVisible now most (m :: rest) =
      (m :: (takeVisible now (most - 1) rest).1, (takeVisible now (most - 1) rest).2) := by
  rw [takeVisible, if_pos h]

theorem takeVisible_cons_of_not_due (h : ¬(0 < most ∧ m.isVisible now)) :
    takeVisible now most (m :: rest) =
      ((takeVisible now most rest).1, m :: (takeVisible now most rest).2) := by
  rw [takeVisible, if_neg h]

/-- The first of the visible messages are taken. -/
theorem takeVisible_fst (now most : Nat) (ms : List QueuedMessage) :
    (takeVisible now most ms).1 = (ms.filter (·.isVisible now)).take most := by
  induction ms generalizing most with
  | nil => simp [takeVisible_nil]
  | cons m rest ih =>
    by_cases hv : m.isVisible now
    · cases most with
      | zero => simp [takeVisible_cons_of_not_due, ih]
      | succ n => simp [takeVisible_cons_of_due, hv, ih]
    · simp [takeVisible_cons_of_not_due, hv, ih]

theorem takeVisible_zero (now : Nat) (ms : List QueuedMessage) :
    takeVisible now 0 ms = ([], ms) := by
  induction ms with
  | nil => rw [takeVisible_nil]
  | cons m rest ih => rw [takeVisible_cons_of_not_due (by simp), ih]

/-- The messages fall into a front, of which the hidden ones stay, and a back, which stays. -/
theorem takeVisible_split (now most : Nat) (ms : List QueuedMessage) :
    ∃ front back, ms = front ++ back ∧ takeVisible now most ms =
      (front.filter (·.isVisible now), front.filter (!·.isVisible now) ++ back) := by
  induction ms generalizing most with
  | nil => exact ⟨[], [], rfl, takeVisible_nil now most⟩
  | cons m rest ih =>
    cases most with
    | zero => exact ⟨[], m :: rest, rfl, takeVisible_zero now _⟩
    | succ n =>
      cases hv : m.isVisible now with
      | true =>
        obtain ⟨front, back, rfl, htake⟩ := ih n
        refine ⟨m :: front, back, rfl, ?_⟩
        rw [takeVisible_cons_of_due ⟨n.succ_pos, hv⟩, Nat.succ_sub_one, htake]
        simp [hv]
      | false =>
        obtain ⟨front, back, rfl, htake⟩ := ih (n + 1)
        refine ⟨m :: front, back, rfl, ?_⟩
        rw [takeVisible_cons_of_not_due (by simp [hv]), htake]
        simp [hv]

/-- What is kept, is kept in its order. -/
theorem takeVisible_snd_sublist (now most : Nat) (ms : List QueuedMessage) :
    (takeVisible now most ms).2.Sublist ms := by
  obtain ⟨front, back, rfl, htake⟩ := takeVisible_split now most ms
  rw [htake]
  exact List.filter_sublist.append_right back

/-- What was hidden is all kept. -/
theorem filter_hidden_takeVisible_snd (now most : Nat) (ms : List QueuedMessage) :
    (takeVisible now most ms).2.filter (!·.isVisible now) = ms.filter (!·.isVisible now) := by
  obtain ⟨front, back, rfl, htake⟩ := takeVisible_split now most ms
  rw [htake, List.filter_append, List.filter_append, List.filter_filter]
  simp only [Bool.and_self]

/-- Of what was visible the rest is kept. -/
theorem filter_visible_takeVisible_snd (now most : Nat) (ms : List QueuedMessage) :
    (takeVisible now most ms).2.filter (·.isVisible now) =
      (ms.filter (·.isVisible now)).drop most := by
  obtain ⟨front, back, rfl, htake⟩ := takeVisible_split now most ms
  have hfront : front.filter (·.isVisible now) =
      ((front ++ back).filter (·.isVisible now)).take most := by
    rw [← takeVisible_fst, htake]
  have hback : (front.filter (!·.isVisible now) ++ back).filter (·.isVisible now) =
      back.filter (·.isVisible now) := by
    simp [List.filter_append, List.filter_filter]
  rw [htake, hback]
  -- front and back are told apart by how many are taken of the front
  have hall : front.filter (·.isVisible now) ++ back.filter (·.isVisible now) =
      front.filter (·.isVisible now) ++
        ((front ++ back).filter (·.isVisible now)).drop most := by
    rw [← List.filter_append, hfront, List.take_append_drop]
  exact List.append_cancel_left hall

end PlatformLink.Storage
