import PlatformLink.Proofs.Json.AnyOrder

/-!
# Values from their JSON

A codec restores when whatever it turns into JSON it makes again of that JSON. The JSON of a record
has the members in the order of their keys; each finds its slot, so the order does not matter.
-/

namespace PlatformLink.Json

variable {α β δ : Type}

def Codec.Restores (c : Codec α) : Prop :=
  ∀ x, c.ofJson (c.toJson x) = .ok x

namespace Codec

theorem restores_text : text.Restores := fun _ => rfl

theorem restores_uint32 : uint32.Restores := by
  intro n
  have hn : 0 ≤ (n.toNat : Int) ∧ (n.toNat : Int) < UInt32.size :=
    ⟨Int.natCast_nonneg _, Int.ofNat_lt.mpr n.toNat_lt⟩
  simp only [uint32, ofUInt32, natBelowOfJson, natBelow]
  rw [if_pos hn, ok_bind, Int.toNat_natCast, UInt32.ofNat_toNat]
  rfl

end Codec

namespace Members

/-- All members restore. -/
inductive Restores : {δ β : Type} → Members δ β → Prop where
  | nil : Restores nil
  | cons {α δ β : Type} {f : Field α} {rest : Members δ β} (hcodec : f.codec.Restores)
      (homitted : ∀ x, f.omitted x = true → f.byName = some x) (hname : f.name ∉ rest.names)
      (hrest : Restores rest) : Restores (cons f rest)

variable {ms : Members δ β}

theorem Restores.wellFormed (h : ms.Restores) : ms.WellFormed := by
  induction h with
  | nil => exact .nil
  | cons _ homitted hname _ ih => exact .cons homitted hname ih

/-- The JSON of a member is put into its slot. -/
theorem Restores.put_slotsAt (h : ms.Restores) {y : β} {m : String × Json} (hm : m ∈ ms.toJson y)
    (keys : List String) :
    ms.put m.1 m.2 (ms.slotsAt keys y) = .ok (ms.slotsAt (m.1 :: keys) y) := by
  induction h with
  | nil => cases hm
  | @cons _ _ _ f more hcodec _ hname _ ih =>
    obtain ⟨x, xs⟩ := y
    rcases mem_toJson_cons.mp hm with ⟨hkept, rfl⟩ | hmore
    · have hsame : more.slotsAt (f.name :: keys) xs = more.slotsAt keys xs :=
        slotsAt_congr xs fun name hmem => by
          have hne : name ≠ f.name := fun heq => hname (heq ▸ hmem)
          simp [hne]
      simp only [slotsAt, hkept, hsame, List.mem_cons_self, and_self, if_true]
      rw [put, if_pos rfl, hcodec x, ok_bind]
      rfl
    · have hne : m.1 ≠ f.name := fun heq => hname (heq ▸ mem_names_of_mem_toJson hmore)
      simp only [slotsAt, List.mem_cons, hne.symm, false_or]
      rw [put, if_neg hne, ih hmore, ok_bind]
      rfl

theorem Restores.foldlM_put (h : ms.Restores) {y : β} {members : List (String × Json)}
    (hmembers : ∀ m ∈ members, m ∈ ms.toJson y) (keys : List String) :
    members.foldlM (fun slots m => ms.put m.1 m.2 slots) (ms.slotsAt keys y) =
      .ok (ms.slotsAt ((members.map (·.1)).reverse ++ keys) y) := by
  induction members generalizing keys with
  | nil => rfl
  | cons m more ih =>
    obtain ⟨hm, hmore⟩ := List.forall_mem_cons.mp hmembers
    rw [List.foldlM_cons, h.put_slotsAt hm, ok_bind, ih hmore]
    simp

end Members

theorem Codec.restores_record {name : String} {ms : Members δ β} {parts : α → β} {build : β → α}
    (h : ms.Restores) (hbuild : ∀ x, build (parts x) = x) :
    (record name ms parts build).Restores := by
  intro x
  have hnodup := h.wellFormed.nodup_toJson (parts x)
  obtain ⟨members, hobject, -, hmem⟩ := exists_object_eq hnodup
  have hvalue : (record name ms parts build).toJson x = .obj members := hobject
  have hslots := h.foldlM_put (fun m hm => (hmem m).mp hm) []
  rw [Members.slotsAt_nil, Members.slotsAt_all fun m hm => by
    simpa using ⟨m.2, (hmem m).mpr hm⟩] at hslots
  rw [hvalue, record]
  dsimp only
  rw [hslots, ok_bind, h.wellFormed.finish_slotsOf, ok_bind, hbuild]
  rfl

end PlatformLink.Json
