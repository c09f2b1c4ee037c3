import Mathlib.Data.String.Basic
import PlatformLink.Json.Value

/-!
# The shape of values

How deep arrays and objects are nested in a value, whether the members of its objects are sorted,
and whether all its numbers are whole. An object that is built of members with different keys holds
just these members, so its shape is that of their values.
-/

namespace PlatformLink.Json

/-- At most `depth` arrays and objects are nested in a value. -/
def Within : (depth : Nat) → Json → Prop
  | _, .null | _, .bool _ | _, .num _ | _, .str _ => True
  | 0, .arr _ | 0, .obj _ => False
  | depth + 1, .arr items => ∀ v ∈ items, Within depth v
  | depth + 1, .obj members => ∀ m ∈ members, Within depth m.2

abbrev SortedKeys (members : List (String × Json)) : Prop :=
  (members.map (·.1)).Pairwise (· < ·)

/-- The members of every object in a value are sorted by key, and each key stands once. -/
inductive Sorted : Json → Prop where
  | null : Sorted .null
  | bool (b : Bool) : Sorted (.bool b)
  | num (n : Number) : Sorted (.num n)
  | str (s : String) : Sorted (.str s)
  | arr {items : List Json} (h : ∀ v ∈ items, Sorted v) : Sorted (.arr items)
  | obj {members : List (String × Json)} (hkeys : SortedKeys members)
      (h : ∀ m ∈ members, Sorted m.2) : Sorted (.obj members)

/-- A value that can be read where `depth` arrays and objects may be nested. -/
structure Fits (depth : Nat) (v : Json) : Prop where
  within : v.Within depth
  sorted : v.Sorted

/-- No number in a value is a floating point number. -/
inductive Whole : Json → Prop where
  | null : Whole .null
  | bool (b : Bool) : Whole (.bool b)
  | num (n : Int) (bounds : leastWhole ≤ n ∧ n ≤ greatestWhole) : Whole (.num (.whole n bounds))
  | str (s : String) : Whole (.str s)
  | arr {items : List Json} (h : ∀ v ∈ items, Whole v) : Whole (.arr items)
  | obj {members : List (String × Json)} (h : ∀ m ∈ members, Whole m.2) : Whole (.obj members)

theorem Sorted.items {items : List Json} (h : Sorted (.arr items)) : ∀ v ∈ items, Sorted v := by
  cases h with
  | arr h => exact h

theorem Whole.items {items : List Json} (h : Whole (.arr items)) : ∀ v ∈ items, Whole v := by
  cases h with
  | arr h => exact h

theorem Whole.members {members : List (String × Json)} (h : Whole (.obj members)) :
    ∀ m ∈ members, Whole m.2 := by
  cases h with
  | obj h => exact h

theorem Within.pos_of_arr {depth : Nat} {items : List Json} (h : Within depth (.arr items)) :
    ∃ inner, depth = inner + 1 ∧ ∀ v ∈ items, Within inner v := by
  cases depth with
  | zero => exact h.elim
  | succ inner => exact ⟨inner, rfl, h⟩

theorem Within.pos_of_obj {depth : Nat} {members : List (String × Json)}
    (h : Within depth (.obj members)) :
    ∃ inner, depth = inner + 1 ∧ ∀ m ∈ members, Within inner m.2 := by
  cases depth with
  | zero => exact h.elim
  | succ inner => exact ⟨inner, rfl, h⟩

theorem fits_null (depth : Nat) : Fits depth .null := ⟨by simp only [Within], .null⟩

theorem fits_bool (depth : Nat) (b : Bool) : Fits depth (.bool b) :=
  ⟨by simp only [Within], .bool b⟩

theorem fits_num (depth : Nat) (n : Number) : Fits depth (.num n) := ⟨by simp only [Within], .num n⟩

theorem fits_str (depth : Nat) (s : String) : Fits depth (.str s) := ⟨by simp only [Within], .str s⟩

theorem fits_arr {depth : Nat} {items : List Json} (h : ∀ v ∈ items, v.Fits depth) :
    Fits (depth + 1) (.arr items) :=
  ⟨fun v hv => (h v hv).within, .arr fun v hv => (h v hv).sorted⟩

theorem fits_obj {depth : Nat} {members : List (String × Json)} (hkeys : SortedKeys members)
    (h : ∀ m ∈ members, m.2.Fits depth) : Fits (depth + 1) (.obj members) :=
  ⟨fun m hm => (h m hm).within, .obj hkeys fun m hm => (h m hm).sorted⟩

theorem Fits.of_arr {depth : Nat} {items : List Json} (h : Fits depth (.arr items)) :
    ∃ inner, depth = inner + 1 ∧ ∀ v ∈ items, v.Fits inner := by
  obtain ⟨inner, rfl, hinner⟩ := h.within.pos_of_arr
  exact ⟨inner, rfl, fun v hv => ⟨hinner v hv, h.sorted.items v hv⟩⟩

theorem Fits.of_obj {depth : Nat} {members : List (String × Json)} (h : Fits depth (.obj members)) :
    ∃ inner, depth = inner + 1 ∧ SortedKeys members ∧ ∀ m ∈ members, m.2.Fits inner := by
  obtain ⟨inner, rfl, hinner⟩ := h.within.pos_of_obj
  cases h.sorted with
  | obj hkeys hmembers => exact ⟨inner, rfl, hkeys, fun m hm => ⟨hinner m hm, hmembers m hm⟩⟩

/-! ## Members in their places -/

theorem mem_insertMember {key : String} {v : Json} {members : List (String × Json)}
    {m : String × Json} (h : m ∈ insertMember key v members) : m = (key, v) ∨ m ∈ members := by
  induction members with
  | nil => exact Or.inl (List.mem_singleton.mp h)
  | cons n rest ih =>
    unfold insertMember at h
    split at h
    next => exact List.mem_cons.mp h
    next =>
      split at h
      next =>
        rcases List.mem_cons.mp h with h | h
        · exact Or.inl h
        · exact Or.inr (List.mem_cons_of_mem n h)
      next =>
        rcases List.mem_cons.mp h with h | h
        · exact Or.inr (h ▸ List.mem_cons_self)
        · exact (ih h).imp id (List.mem_cons_of_mem n)

theorem sortedKeys_insertMember (key : String) (v : Json) {members : List (String × Json)}
    (h : SortedKeys members) : SortedKeys (insertMember key v members) := by
  induction members with
  | nil => exact List.pairwise_singleton _ _
  | cons n rest ih =>
    obtain ⟨hfirst, hrest⟩ := List.pairwise_cons.mp h
    unfold insertMember
    split
    next hlt =>
      refine List.pairwise_cons.mpr ⟨?_, h⟩
      intro k hk
      rcases List.mem_cons.mp hk with rfl | hk
      · exact hlt
      · exact String.lt_trans hlt (hfirst k hk)
    next hlt =>
      split
      next heq => exact List.pairwise_cons.mpr ⟨heq ▸ hfirst, hrest⟩
      next hne =>
        refine List.pairwise_cons.mpr ⟨?_, ih hrest⟩
        intro k hk
        obtain ⟨m, hm, rfl⟩ := List.mem_map.mp hk
        rcases mem_insertMember hm with rfl | hm
        · exact lt_of_le_of_ne (String.not_lt.mp hlt) (Ne.symm hne)
        · exact hfirst m.1 (List.mem_map_of_mem hm)

/-- A member that is put in its place is the one of its key. -/
theorem member?_insertMember (key : String) (v : Json) (members : List (String × Json)) :
    member? key (insertMember key v members) = some v := by
  induction members with
  | nil => simp [insertMember, member?]
  | cons n rest ih =>
    unfold insertMember
    split
    next => simp [member?]
    next =>
      split
      next => simp [member?]
      next hne =>
        have hother : (n.1 == key) = false := beq_false_of_ne (Ne.symm hne)
        rw [member?, List.find?_cons, hother]
        exact ih

/-- The members of other keys stay as they are. -/
theorem filter_insertMember (key : String) (v : Json) (members : List (String × Json)) :
    (insertMember key v members).filter (·.1 != key) = members.filter (·.1 != key) := by
  induction members with
  | nil => simp [insertMember]
  | cons n rest ih =>
    unfold insertMember
    split
    next => rw [List.filter_cons_of_neg (by simp)]
    next =>
      split
      next heq => rw [List.filter_cons_of_neg (by simp), List.filter_cons_of_neg (by simp [heq])]
      next => rw [List.filter_cons, List.filter_cons, ih]

/-- A key that is greater than all others comes last. -/
theorem insertMember_of_lt {key : String} (v : Json) {members : List (String × Json)}
    (h : ∀ m ∈ members, m.1 < key) : insertMember key v members = members ++ [(key, v)] := by
  induction members with
  | nil => rfl
  | cons n rest ih =>
    have hlt : n.1 < key := h n List.mem_cons_self
    rw [insertMember, if_neg (String.lt_asymm hlt), if_neg (ne_of_gt hlt),
      ih fun m hm => h m (List.mem_cons_of_mem n hm), List.cons_append]

/-- A new key takes no member away. -/
theorem mem_insertMember_iff {key : String} {members : List (String × Json)}
    (h : key ∉ members.map (·.1)) (v : Json) (m : String × Json) :
    m ∈ insertMember key v members ↔ m = (key, v) ∨ m ∈ members := by
  induction members with
  | nil => simp [insertMember]
  | cons n rest ih =>
    obtain ⟨hne, hrest⟩ := not_or.mp (mt List.mem_cons.mpr h)
    unfold insertMember
    split
    next => exact List.mem_cons
    next =>
      rw [List.mem_cons, List.mem_cons, ih hrest]
      tauto

/-! ## Objects that are built -/

theorem mem_foldl_insertMember {members own : List (String × Json)}
    (h : (members.map (·.1)).Nodup) (hnew : ∀ m ∈ members, m.1 ∉ own.map (·.1))
    (m : String × Json) :
    m ∈ members.foldl (fun ms n => insertMember n.1 n.2 ms) own ↔ m ∈ own ∨ m ∈ members := by
  induction members generalizing own with
  | nil => simp
  | cons n rest ih =>
    obtain ⟨hfirst, hrest⟩ := List.nodup_cons.mp h
    have hown := mem_insertMember_iff (hnew n List.mem_cons_self) n.2
    have hnext : ∀ k ∈ rest, k.1 ∉ (insertMember n.1 n.2 own).map (·.1) := by
      intro k hk hmem
      obtain ⟨l, hl, hkey⟩ := List.mem_map.mp hmem
      rcases (hown l).mp hl with rfl | hl
      · exact hfirst (List.mem_map.mpr ⟨k, hk, hkey.symm⟩)
      · exact hnew k (List.mem_cons_of_mem n hk) (List.mem_map.mpr ⟨l, hl, hkey⟩)
    rw [List.foldl_cons, ih hrest hnext, hown, List.mem_cons]
    tauto

theorem sortedKeys_foldl_insertMember (members : List (String × Json))
    {own : List (String × Json)} (h : SortedKeys own) :
    SortedKeys (members.foldl (fun ms n => insertMember n.1 n.2 ms) own) := by
  induction members generalizing own with
  | nil => exact h
  | cons n rest ih => exact ih (sortedKeys_insertMember n.1 n.2 h)

section Object

variable {members : List (String × Json)} (h : (members.map (·.1)).Nodup)
include h

/-- What an object holds of members with different keys. -/
theorem forall_object_iff (P : String × Json → Prop) :
    (∀ m ∈ members.foldl (fun ms n => insertMember n.1 n.2 ms) [], P m) ↔ ∀ m ∈ members, P m := by
  have hnew : ∀ m ∈ members, m.1 ∉ ([] : List (String × Json)).map (·.1) := by simp
  simp only [mem_foldl_insertMember h hnew, List.not_mem_nil, false_or]

/-- An object of members with different keys has just these members, in the order of their keys. -/
theorem exists_object_eq : ∃ own, object members = .obj own ∧ SortedKeys own ∧
    ∀ m, m ∈ own ↔ m ∈ members := by
  refine ⟨_, rfl, sortedKeys_foldl_insertMember members .nil, fun m => ?_⟩
  rw [mem_foldl_insertMember h (by simp)]
  simp

theorem within_object_iff (depth : Nat) :
    Within (depth + 1) (object members) ↔ ∀ m ∈ members, Within depth m.2 :=
  forall_object_iff h fun m => Within depth m.2

theorem sorted_object_iff : Sorted (object members) ↔ ∀ m ∈ members, Sorted m.2 := by
  rw [← forall_object_iff h fun m => Sorted m.2]
  constructor
  · rintro (_ | _ | _ | _ | _ | ⟨-, hvalues⟩)
    exact hvalues
  · exact Sorted.obj (sortedKeys_foldl_insertMember members .nil)

theorem fits_object_iff (depth : Nat) :
    Fits (depth + 1) (object members) ↔ ∀ m ∈ members, m.2.Fits depth := by
  constructor
  · intro hfits m hm
    exact ⟨(within_object_iff h depth).mp hfits.within m hm,
      (sorted_object_iff h).mp hfits.sorted m hm⟩
  · intro hmembers
    exact ⟨(within_object_iff h depth).mpr fun m hm => (hmembers m hm).within,
      (sorted_object_iff h).mpr fun m hm => (hmembers m hm).sorted⟩

theorem whole_object_iff : Whole (object members) ↔ ∀ m ∈ members, Whole m.2 := by
  rw [← forall_object_iff h fun m => Whole m.2]
  exact ⟨Whole.members, Whole.obj⟩

end Object

end PlatformLink.Json
