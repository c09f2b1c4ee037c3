import PlatformLink.Proofs.Json.Assembled

/-!
# Texts of values

A record is written with its members in their own order. The value that it is turned into has them
sorted by key, so the text of that value may be another one. A codec reads JSON back when it reads
this text too: members find their slots in any order, as long as each comes once, and everything
else is written as its value is.
-/

namespace PlatformLink.Json

open Text (Octets octets)

variable {α β δ : Type}

/-- The text of the value that something is turned into is read as that thing. -/
structure Codec.ReadsJson (c : Codec α) (P : α → Prop) : Prop where
  spells : ∀ {depth : Nat} {x : α}, (c.toJson x).Fits depth → (c.toJson x).Whole → P x →
    Spells (c.read depth) (c.toJson x).write x

namespace Codec

variable {c : Codec α} {least : Nat} {P Q : α → Prop}

theorem ReadsJson.congr (h : c.ReadsJson P) (hPQ : ∀ x, P x ↔ Q x) : c.ReadsJson Q :=
  (funext fun x => propext (hPQ x) : P = Q) ▸ h

/-- What is written as its value is. -/
theorem Faithful.readsJson (h : c.Faithful least P) (hwrite : ∀ x, c.write x = (c.toJson x).write) :
    c.ReadsJson P where
  spells {_ x} hfits hwhole hP := by
    rw [← hwrite]
    exact h.spells hfits hwhole hP

theorem readsJson_json : json.ReadsJson fun _ => True :=
  faithful_json.readsJson fun _ => rfl

theorem readsJson_text : text.ReadsJson fun _ => True :=
  faithful_text.readsJson fun _ => by simp [text, Json.write]

theorem readsJson_uint32 : uint32.ReadsJson fun _ => True :=
  faithful_uint32.readsJson fun _ => by
    simp only [uint32, ofUInt32, Json.write, Number.write]
    rfl

theorem readsJson_choice {variants : List (String × α)} {name : α → String}
    (h : ∀ x, variants.find? (·.1 == name x) = some (name x, x)) :
    (choice variants name).ReadsJson fun _ => True :=
  (faithful_choice h).readsJson fun _ => by simp [choice, Json.write]

theorem readsJson_list (h : c.ReadsJson P) :
    (list c).ReadsJson fun xs => ∀ x ∈ xs, P x where
  spells {depth xs} hfits hwhole hP := by
    obtain ⟨inner, rfl, hinner⟩ := hfits.of_arr
    have hitems := spells_list fun x hx => h.spells (hinner _ (List.mem_map_of_mem hx))
      (hwhole.items _ (List.mem_map_of_mem hx)) (hP x hx)
    rwa [← Function.comp_def, ← List.map_map, ← writeItems_eq_map] at hitems

theorem readsJson_option (h : c.ReadsJson P) :
    c.option.ReadsJson fun o => ∀ x ∈ o, c.toJson x ≠ .null ∧ P x where
  spells {depth o} hfits hwhole hP := by
    cases o with
    | none => exact spells_none depth
    | some x =>
      obtain ⟨hnull, hPx⟩ := hP x rfl
      exact spells_some (h.spells hfits hwhole hPx) (solid_json.written _ hwhole hnull)

end Codec

/-! ## Members in any order -/

/-- A member whose value is read from the text of its JSON. -/
structure Field.ReadsJson (f : Field α) (P : α → Prop) : Prop where
  codec : f.codec.ReadsJson P
  omitted : ∀ x, f.omitted x = true → f.byName = some x

namespace Field

variable {c : Codec α} {P Q : α → Prop}

theorem readsJson_required (name : String) (h : c.ReadsJson P) : (required name c).ReadsJson P :=
  ⟨h, nofun⟩

theorem readsJson_defaulting (name : String) (h : c.ReadsJson P) (missing : α) :
    (defaulting name c missing).ReadsJson P :=
  ⟨h, nofun⟩

theorem readsJson_optional (name : String) (h : c.ReadsJson P) :
    (optional name c).ReadsJson fun o => ∀ x ∈ o, c.toJson x ≠ .null ∧ P x where
  codec := Codec.readsJson_option h
  omitted o ho := by rw [Option.isNone_iff_eq_none.mp ho]; rfl

end Field

namespace Members

inductive ReadsJson : {δ β : Type} → Members δ β → (β → Prop) → Prop where
  | nil : ReadsJson nil fun _ => True
  | cons {α δ β : Type} {f : Field α} {rest : Members δ β} {P : α → Prop} {Q : β → Prop}
      (hfield : f.ReadsJson P) (hname : f.name ∉ rest.names) (hrest : ReadsJson rest Q) :
      ReadsJson (cons f rest) fun y => P y.1 ∧ Q y.2

variable {ms : Members δ β} {depth : Nat} {P : β → Prop}

theorem ReadsJson.wellFormed (h : ms.ReadsJson P) : ms.WellFormed := by
  induction h with
  | nil => exact .nil
  | cons hfield hname _ ih => exact .cons hfield.omitted hname ih

/-- The slots of those values that were written under some of the keys. -/
def slotsAt (keys : List String) {δ β : Type} : Members δ β → β → δ
  | nil, () => ()
  | cons f rest, (x, xs) =>
    (if f.omitted x = false ∧ f.name ∈ keys then some x else none, rest.slotsAt keys xs)

theorem slotsAt_nil (ms : Members δ β) (y : β) : ms.slotsAt [] y = ms.empty := by
  induction ms with
  | nil => rfl
  | cons f rest ih => simp [slotsAt, empty, ih]

theorem slotsAt_congr {keys others : List String} (y : β)
    (h : ∀ name ∈ ms.names, name ∈ keys ↔ name ∈ others) :
    ms.slotsAt keys y = ms.slotsAt others y := by
  induction ms with
  | nil => rfl
  | cons f rest ih =>
    obtain ⟨hfirst, hrest⟩ := List.forall_mem_cons.mp h
    simp only [slotsAt, hfirst, ih y.2 hrest]

theorem slotsAt_all {keys : List String} {y : β} (h : ∀ m ∈ ms.toJson y, m.1 ∈ keys) :
    ms.slotsAt keys y = ms.slotsOf y := by
  induction ms with
  | nil => rfl
  | cons f rest ih =>
    obtain ⟨x, xs⟩ := y
    rw [toJson] at h
    rw [slotsAt, slotsOf]
    split at h
    next homitted => simp [homitted, ih h]
    next hkept =>
      obtain ⟨hfirst, hrest⟩ := List.forall_mem_cons.mp h
      simp [hkept, hfirst, ih hrest]

theorem mem_toJson_cons {f : Field α} {rest : Members δ β} {x : α} {xs : β} {m : String × Json} :
    m ∈ (cons f rest).toJson (x, xs) ↔
      f.omitted x = false ∧ m = (f.name, f.codec.toJson x) ∨ m ∈ rest.toJson xs := by
  rw [toJson]
  split
  next homitted => simp [homitted]
  next hkept => simp [hkept]

/-- A member that has not come yet is read into its slot. -/
theorem ReadsJson.readMember_slotsAt (h : ms.ReadsJson P) {y : β}
    (hfits : ∀ m ∈ ms.toJson y, m.2.Fits depth) (hwhole : ∀ m ∈ ms.toJson y, m.2.Whole)
    (hP : P y) {m : String × Json} (hm : m ∈ ms.toJson y) {keys : List String}
    (hnew : m.1 ∉ keys) {rest : Octets} (hrest : Follows rest) :
    ms.readMember depth (ms.slotsAt keys y) m.1 (0x3A :: (octets m.2.write ++ rest)) =
      .ok (ms.slotsAt (m.1 :: keys) y, rest) := by
  induction h with
  | nil => cases hm
  | @cons _ _ _ f more _ _ hfield hname _ ih =>
    obtain ⟨x, xs⟩ := y
    have hlater : ∀ m ∈ more.toJson xs, m ∈ (Members.cons f more).toJson (x, xs) := fun m hm =>
      mem_toJson_cons.mpr (.inr hm)
    rcases mem_toJson_cons.mp hm with ⟨hkept, rfl⟩ | hmore
    · have hspells := hfield.codec.spells (hfits _ hm) (hwhole _ hm) hP.1
      have hsame : more.slotsAt (f.name :: keys) xs = more.slotsAt keys xs :=
        slotsAt_congr xs fun name hmem => by
          have hne : name ≠ f.name := fun heq => hname (heq ▸ hmem)
          simp [hne]
      simp only [slotsAt, hkept, hnew, hsame, List.mem_cons_self, and_false, and_self, if_true,
        if_false]
      rw [readMember, claim, if_pos rfl]
      simp only [Option.isSome_none, Bool.false_eq_true, if_false]
      rw [readColon_colon, ok_bind, hspells.taken rest hrest]
      rfl
    · have hne : m.1 ≠ f.name := fun heq => hname (heq ▸ mem_names_of_mem_toJson hmore)
      have hread := ih (fun m hm => hfits m (hlater m hm)) (fun m hm => hwhole m (hlater m hm))
        hP.2 hmore
      simp only [slotsAt, List.mem_cons, hne.symm, false_or]
      exact readMember_of_ne hne hread _

/-- Members are read one by one in any order, each of them once. -/
theorem ReadsJson.folds_slotsAt (h : ms.ReadsJson P) {y : β}
    (hfits : ∀ m ∈ ms.toJson y, m.2.Fits depth) (hwhole : ∀ m ∈ ms.toJson y, m.2.Whole)
    (hP : P y) {members : List (String × Json)} (hmembers : ∀ m ∈ members, m ∈ ms.toJson y)
    {keys : List String} (hnodup : (members.map (·.1)).Nodup)
    (hnew : ∀ m ∈ members, m.1 ∉ keys) :
    Folds (ms.readMember depth) (ms.slotsAt keys y) (members.map fun m => (m.1, m.2.write))
      (ms.slotsAt ((members.map (·.1)).reverse ++ keys) y) := by
  induction members generalizing keys with
  | nil => exact .nil _
  | cons m more ih =>
    obtain ⟨hm, hmore⟩ := List.forall_mem_cons.mp hmembers
    obtain ⟨hmNew, hmoreNew⟩ := List.forall_mem_cons.mp hnew
    obtain ⟨hmOnce, hmoreNodup⟩ := List.nodup_cons.mp hnodup
    have hnext : ∀ k ∈ more, k.1 ∉ m.1 :: keys := fun k hk hmem => by
      rcases List.mem_cons.mp hmem with heq | hmem
      · exact hmOnce (List.mem_map.mpr ⟨k, hk, heq⟩)
      · exact hmoreNew k hk hmem
    have hlast : (((m :: more).map (·.1)).reverse ++ keys) =
        (more.map (·.1)).reverse ++ (m.1 :: keys) := by simp
    rw [hlast]
    exact .cons (fun rest hrest => h.readMember_slotsAt hfits hwhole hP hm hmNew hrest)
      (ih hmore hmoreNodup hnext)

end Members

/-! ## Records -/

/-- The members of the value are those of the record, each once, in the order of the keys. -/
theorem Codec.readsJson_record {name : String} {ms : Members δ β} {parts : α → β} {build : β → α}
    {P : β → Prop} (h : ms.ReadsJson P) (hbuild : ∀ x, build (parts x) = x) :
    (record name ms parts build).ReadsJson fun x => P (parts x) where
  spells {depth x} hfits hwhole hP := by
    have hnodup := h.wellFormed.nodup_toJson (parts x)
    obtain ⟨inner, rfl, -⟩ := hfits.of_obj
    have hinner := (fits_object_iff hnodup inner).mp hfits
    have hnumbers := (whole_object_iff hnodup).mp hwhole
    obtain ⟨members, hobject, hsorted, hmem⟩ := exists_object_eq hnodup
    have hvalue : (record name ms parts build).toJson x = .obj members := hobject
    have hfolds := h.folds_slotsAt hinner hnumbers hP (fun m hm => (hmem m).mp hm)
      (hsorted.imp fun hlt => ne_of_lt hlt) (fun m _ => List.not_mem_nil)
    rw [Members.slotsAt_nil, Members.slotsAt_all fun m hm => by
      simpa using ⟨m.2, (hmem m).mpr hm⟩] at hfolds
    rw [hvalue, Json.write, writeMembers_eq_map]
    exact spells_record hfolds (h.wellFormed.finish_slotsOf _) (hbuild x)

end PlatformLink.Json
