import PlatformLink.Proofs.Json.Candor
import PlatformLink.Proofs.Json.Faithful

/-!
# Faithful records and tagged values

A record is faithful when its members are: each has a name of its own, a value that is left out is
the one that a missing member stands for, and such a value fits. An object is then read member by
member into the slots of the values that were written. What is asked of a new member is asked of
that member alone.
-/

namespace PlatformLink.Json

open Text (Octets octets)

variable {α β δ : Type}

/-! ## Members that are read -/

namespace Members

/-- Each slot that is filled holds a value that was read. -/
def SlotsRead (depth : Nat) {δ β : Type} : Members δ β → δ → Prop
  | nil, () => True
  | cons f rest, (slot, slots) =>
    (∀ x ∈ slot, f.codec.Readable depth x) ∧ rest.SlotsRead depth slots

/-- Each value was read or stands for a missing member. -/
def Given (depth : Nat) {δ β : Type} : Members δ β → β → Prop
  | nil, () => True
  | cons f rest, (x, xs) =>
    (f.codec.Readable depth x ∨ f.byName = some x ∨ f.byPosition = some x) ∧ rest.Given depth xs

variable {ms : Members δ β} {depth : Nat}

theorem slotsRead_empty (ms : Members δ β) (depth : Nat) : ms.SlotsRead depth ms.empty := by
  induction ms with
  | nil => exact trivial
  | cons f rest ih => exact ⟨nofun, ih⟩

theorem gives_readable (c : Codec α) (depth : Nat) (bs : Octets) :
    Gives (fun r => c.Readable depth r.1) (c.read depth bs) :=
  fun r hr => ⟨bs, r.2, hr⟩

theorem slotsRead_claim {slots : δ} (h : ms.SlotsRead depth slots) {key : String}
    {read : Nat → Octets → Decoded (δ × Octets)} (hread : ms.claim key slots = some (.ok read))
    (bs : Octets) : Gives (fun r => ms.SlotsRead depth r.1) (read depth bs) := by
  induction ms with
  | nil => cases hread
  | cons f rest ih =>
    obtain ⟨slot, slots⟩ := slots
    obtain ⟨hslot, hslots⟩ := h
    rw [claim] at hread
    by_cases hkey : key = f.name
    · rw [if_pos hkey] at hread
      have hread := Option.some.inj hread
      split at hread
      next => cases hread
      next =>
        obtain rfl := Except.ok.inj hread
        refine Gives.bind (gives_readable f.codec depth bs) fun r hr => gives_ok ⟨?_, hslots⟩
        rintro x ⟨⟩
        exact hr
    · rw [if_neg hkey] at hread
      obtain ⟨y, hy, hread⟩ := Option.map_eq_some_iff.mp hread
      cases y with
      | error d => cases hread
      | ok inner =>
        obtain rfl := Except.ok.inj hread
        exact Gives.bind (ih hslots hy) fun r hr => gives_ok ⟨hslot, hr⟩

theorem slotsRead_readMember {slots : δ} (h : ms.SlotsRead depth slots) (key : String)
    (bs : Octets) :
    Gives (fun r => ms.SlotsRead depth r.1) (ms.readMember depth slots key bs) := by
  unfold readMember
  split
  next => exact gives_after _ fun _ => gives_after _ fun _ => gives_ok h
  next => exact gives_error _
  next read hread => exact gives_after _ fun rest => slotsRead_claim h hread rest

theorem given_finish {slots : δ} (h : ms.SlotsRead depth slots) :
    Gives (ms.Given depth) (ms.finish slots) := by
  induction ms with
  | nil => exact gives_ok trivial
  | cons f rest ih =>
    obtain ⟨slot, slots⟩ := slots
    obtain ⟨hslot, hslots⟩ := h
    rw [finish]
    split
    next x hx =>
      refine Gives.bind (ih hslots) fun xs hxs => gives_ok ⟨?_, hxs⟩
      cases slot with
      | none => exact Or.inr (Or.inl hx)
      | some y =>
        obtain rfl := Option.some.inj hx
        exact Or.inl (hslot y rfl)
    next => exact gives_error _

theorem given_readPositions (ms : Members δ β) (expected : String) (depth index : Nat)
    (bs : Octets) :
    Gives (fun r => ms.Given depth r.1) (ms.readPositions expected depth index bs) := by
  induction ms generalizing index bs with
  | nil => exact gives_ok trivial
  | cons f rest ih =>
    rw [readPositions]
    refine gives_after _ fun next => ?_
    split
    next =>
      refine Gives.bind (gives_readable f.codec depth _) fun r hr => ?_
      exact Gives.bind (ih (index + 1) r.2) fun s hs => gives_ok ⟨Or.inl hr, hs⟩
    next =>
      split
      next x hx =>
        exact Gives.bind (ih (index + 1) _) fun s hs => gives_ok ⟨Or.inr (Or.inr hx), hs⟩
      next => exact gives_error _

end Members

/-! ## Faithful members -/

/-- A value that is left out is the one that stands for a missing member. -/
structure Field.Faithful (f : Field α) (least : Nat) (P : α → Prop) : Prop where
  codec : f.codec.Faithful least P
  omitted : ∀ x, f.omitted x = true → f.byName = some x
  missing : ∀ x, f.byName = some x ∨ f.byPosition = some x →
    P x ∧ ∀ depth, least ≤ depth → (f.codec.toJson x).Fits depth

namespace Field

variable {c : Codec α} {least : Nat} {P : α → Prop}

theorem Faithful.congr {f : Field α} {Q : α → Prop} (h : f.Faithful least P)
    (hPQ : ∀ x, P x ↔ Q x) : f.Faithful least Q :=
  (funext fun x => propext (hPQ x) : P = Q) ▸ h

theorem faithful_required (name : String) (h : c.Faithful least P) :
    (required name c).Faithful least P :=
  ⟨h, nofun, by rintro x (⟨⟨⟩⟩ | ⟨⟨⟩⟩)⟩

theorem faithful_optional (name : String) (h : c.Faithful least P) (hsolid : c.Solid) :
    (optional name c).Faithful least fun o => ∀ x ∈ o, c.toJson x ≠ .null ∧ P x where
  codec := Codec.faithful_option h hsolid
  omitted o ho := by rw [Option.isNone_iff_eq_none.mp ho]; rfl
  missing o ho := by
    obtain rfl : o = none := by rcases ho with h | h <;> exact (Option.some.inj h).symm
    exact ⟨nofun, fun depth _ => fits_null depth⟩

/-- Where no value is written as `null`, none is mistaken for a missing one. -/
theorem faithful_optional_of_ne (name : String) (h : c.Faithful least P) (hsolid : c.Solid)
    (hne : ∀ x, c.toJson x ≠ .null) :
    (optional name c).Faithful least fun o => ∀ x ∈ o, P x :=
  (faithful_optional name h hsolid).congr fun o => by simp [hne]

theorem faithful_optional_text (name : String) :
    (optional name .text).Faithful 0 fun _ => True :=
  (faithful_optional_of_ne name Codec.faithful_text Codec.solid_text fun _ => nofun).congr
    fun o => by simp

theorem faithful_optional_json (name : String) :
    (optional name .json).Faithful 0 fun o => o ≠ some .null :=
  (faithful_optional name Codec.faithful_json Codec.solid_json).congr fun o => by
    cases o <;> simp [Codec.json]

theorem faithful_nullable (name : String) (h : c.Faithful least P) (hsolid : c.Solid) :
    (nullable name c).Faithful least fun o => ∀ x ∈ o, c.toJson x ≠ .null ∧ P x where
  codec := Codec.faithful_option h hsolid
  omitted := nofun
  missing o ho := by
    rcases ho with h | h
    · obtain rfl := Option.some.inj h
      exact ⟨nofun, fun depth _ => fits_null depth⟩
    · cases h

theorem faithful_defaulting (name : String) (h : c.Faithful least P) {missing : α}
    (hP : P missing) (hfits : ∀ depth, least ≤ depth → (c.toJson missing).Fits depth) :
    (defaulting name c missing).Faithful least P where
  codec := h
  omitted := nofun
  missing x hx := by
    obtain rfl : missing = x := by rcases hx with h | h <;> exact Option.some.inj h
    exact ⟨hP, hfits⟩

end Field

namespace Members

/-- The members of a record are faithful, and each has a name of its own. -/
inductive Faithful (least : Nat) : {δ β : Type} → Members δ β → (β → Prop) → Prop where
  | nil : Faithful least nil fun _ => True
  | cons {α δ β : Type} {f : Field α} {rest : Members δ β} {P : α → Prop} {Q : β → Prop}
      (hfield : f.Faithful least P) (hname : f.name ∉ rest.names)
      (hrest : Faithful least rest Q) : Faithful least (cons f rest) fun y => P y.1 ∧ Q y.2

/-- Each member has a name of its own, and one that is left out stands for its value. -/
inductive WellFormed : {δ β : Type} → Members δ β → Prop where
  | nil : WellFormed nil
  | cons {α δ β : Type} {f : Field α} {rest : Members δ β}
      (homitted : ∀ x, f.omitted x = true → f.byName = some x) (hname : f.name ∉ rest.names)
      (hrest : WellFormed rest) : WellFormed (cons f rest)

variable {ms : Members δ β} {least depth : Nat} {P : β → Prop}

theorem Faithful.wellFormed (h : ms.Faithful least P) : ms.WellFormed := by
  induction h with
  | nil => exact .nil
  | cons hfield hname _ ih => exact .cons hfield.omitted hname ih

theorem mem_names_of_mem_write {y : β} {m : String × String} (hm : m ∈ ms.write y) :
    m.1 ∈ ms.names := by
  induction ms with
  | nil => cases hm
  | cons f rest ih =>
    obtain ⟨x, xs⟩ := y
    rw [write] at hm
    split at hm
    next => exact List.mem_cons_of_mem _ (ih hm)
    next =>
      rcases List.mem_cons.mp hm with rfl | hm
      · exact List.mem_cons_self
      · exact List.mem_cons_of_mem _ (ih hm)

theorem keys_toJson_sublist (ms : Members δ β) (y : β) :
    ((ms.toJson y).map (·.1)).Sublist ms.names := by
  induction ms with
  | nil => exact .refl []
  | cons f rest ih =>
    obtain ⟨x, xs⟩ := y
    rw [toJson]
    split
    next => exact (ih xs).cons f.name
    next => exact (ih xs).cons_cons f.name

theorem mem_names_of_mem_toJson {y : β} {m : String × Json} (hm : m ∈ ms.toJson y) :
    m.1 ∈ ms.names :=
  (ms.keys_toJson_sublist y).mem (List.mem_map_of_mem hm)

theorem WellFormed.nodup_names (h : ms.WellFormed) : ms.names.Nodup := by
  induction h with
  | nil => exact .nil
  | cons _ hname _ ih => exact List.nodup_cons.mpr ⟨hname, ih⟩

theorem WellFormed.nodup_toJson (h : ms.WellFormed) (y : β) :
    ((ms.toJson y).map (·.1)).Nodup :=
  h.nodup_names.sublist (ms.keys_toJson_sublist y)

/-- Values that were read, or stand for missing members, fit. -/
theorem Faithful.fits (h : ms.Faithful least P) (hleast : least ≤ depth) {y : β}
    (hy : ms.Given depth y) : (∀ m ∈ ms.toJson y, m.2.Fits depth) ∧ P y := by
  induction h with
  | nil => exact ⟨List.forall_mem_nil _, trivial⟩
  | @cons _ _ _ f rest P Q hfield _ _ ih =>
    obtain ⟨x, xs⟩ := y
    obtain ⟨hx, hxs⟩ := hy
    obtain ⟨hmembers, hQ⟩ := ih hxs
    have hfirst : (f.codec.toJson x).Fits depth ∧ P x := by
      rcases hx with hread | hmissing
      · exact hfield.codec.fits hleast hread
      · obtain ⟨hP, hfits⟩ := hfield.missing x hmissing
        exact ⟨hfits depth hleast, hP⟩
    refine ⟨?_, hfirst.2, hQ⟩
    rw [toJson]
    split
    next => exact hmembers
    next => exact List.forall_mem_cons.mpr ⟨hfirst.1, hmembers⟩

/-! ## Members that are written -/

/-- The slots of values that were written. -/
def slotsOf {δ β : Type} : Members δ β → β → δ
  | nil, () => ()
  | cons f rest, (x, xs) => (if f.omitted x then none else some x, rest.slotsOf xs)

theorem WellFormed.finish_slotsOf (h : ms.WellFormed) (y : β) :
    ms.finish (ms.slotsOf y) = .ok y := by
  induction h with
  | nil => rfl
  | @cons _ _ _ f rest homitted _ _ ih =>
    obtain ⟨x, xs⟩ := y
    have hslot : ((if f.omitted x then none else some x) <|> f.byName) = some x := by
      split
      next hleft => exact homitted x hleft
      next => rfl
    rw [slotsOf, finish, hslot]
    dsimp only
    rw [ih xs]
    rfl

/-- A member of another name leaves the first slot as it is. -/
theorem readMember_of_ne {f : Field α} {rest : Members δ β} {key : String} (hkey : key ≠ f.name)
    {slots next : δ} {bs left : Octets}
    (h : rest.readMember depth slots key bs = .ok (next, left)) (slot : Option α) :
    (cons f rest).readMember depth (slot, slots) key bs = .ok ((slot, next), left) := by
  rw [readMember] at h ⊢
  rw [claim, if_neg hkey]
  cases hclaim : rest.claim key slots with
  | none =>
    rw [hclaim] at h
    obtain ⟨cs, hcs, h⟩ := bind_eq_ok_iff.mp h
    obtain ⟨ds, hds, h⟩ := bind_eq_ok_iff.mp h
    obtain ⟨rfl, rfl⟩ := Prod.mk.inj (Except.ok.inj h)
    simp only [Option.map_none]
    rw [hcs, ok_bind, hds]
    rfl
  | some x =>
    rw [hclaim] at h
    cases x with
    | error d => cases h
    | ok read =>
      obtain ⟨cs, hcs, h⟩ := bind_eq_ok_iff.mp h
      simp only [Option.map_some]
      rw [hcs, ok_bind, h]
      rfl

theorem folds_of_ne {f : Field α} {rest : Members δ β} {s last : δ}
    {members : List (String × String)} (h : Folds (rest.readMember depth) s members last)
    (hkeys : ∀ m ∈ members, m.1 ≠ f.name) (slot : Option α) :
    Folds ((cons f rest).readMember depth) (slot, s) members (slot, last) := by
  induction h with
  | nil s => exact .nil (slot, s)
  | cons h _ ih =>
    obtain ⟨hkey, hkeys⟩ := List.forall_mem_cons.mp hkeys
    exact .cons (fun rest hrest => readMember_of_ne hkey (h rest hrest) slot) (ih hkeys)

/-- Members that are written are read into the slots of their values. -/
theorem Faithful.folds_write (h : ms.Faithful least P) {y : β}
    (hfits : ∀ m ∈ ms.toJson y, m.2.Fits depth) (hwhole : ∀ m ∈ ms.toJson y, m.2.Whole)
    (hP : P y) : Folds (ms.readMember depth) ms.empty (ms.write y) (ms.slotsOf y) := by
  induction h with
  | nil => exact .nil ()
  | @cons _ _ _ f rest _ _ hfield hname hrest ih =>
    obtain ⟨x, xs⟩ := y
    have hkeys : ∀ m ∈ rest.write xs, m.1 ≠ f.name := fun m hm heq =>
      hname (heq ▸ mem_names_of_mem_write hm)
    rw [toJson] at hfits hwhole
    rw [write, slotsOf, empty]
    split
    next homitted =>
      rw [if_pos homitted] at hfits hwhole
      exact folds_of_ne (ih hfits hwhole hP.2) hkeys none
    next hkept =>
      rw [if_neg hkept] at hfits hwhole
      obtain ⟨hfirst, hmore⟩ := List.forall_mem_cons.mp hfits
      obtain ⟨hfirstWhole, hmoreWhole⟩ := List.forall_mem_cons.mp hwhole
      have hspells := hfield.codec.spells hfirst hfirstWhole hP.1
      refine .cons (fun left hleft => ?_) (folds_of_ne (ih hmore hmoreWhole hP.2) hkeys (some x))
      rw [readMember, claim, if_pos rfl]
      simp only [Option.isSome_none, Bool.false_eq_true, if_false]
      rw [readColon_colon, ok_bind, hspells.taken left hleft]
      rfl

end Members

/-! ## Records -/

namespace Codec

variable {name : String} {ms : Members δ β} {parts : α → β} {build : β → α} {least : Nat}
  {P : β → Prop}

theorem solid_record : (record name ms parts build).Solid where
  read _ _ _ _ _ := gives_of_forall (fun _ => nofun) _
  written x _ _ := by
    show (octets (writeObject (ms.write (parts x)))).head? ≠ some 0x6E
    simp [octets_writeObject]

/-- A record is read from members that lead to the slots of its values, in whatever order. -/
theorem spells_record {inner : Nat} {members : List (String × String)} {slots : δ} {x : α}
    (hfolds : Folds (ms.readMember inner) ms.empty members slots)
    (hfinish : ms.finish slots = .ok (parts x)) (hbuild : build (parts x) = x) :
    Spells ((record name ms parts build).read (inner + 1)) (writeObject members) x where
  opens := octets_writeObject _ ▸ ⟨0x7B, _, rfl, by decide, by decide⟩
  taken rest _ := by
    have hbrace : isBlankOctet 0x7B = false := by decide
    have hnoBracket : (0x7B : UInt8) ≠ 0x5B := by decide
    have htext : octets (writeObject members) ++ rest =
        0x7B :: (octets (",".intercalate (members.map writeMember)) ++ 0x7D :: rest) := by
      simp [octets_writeObject]
    simp only [record, htext, skipBlanks_cons hbrace, if_neg hnoBracket, if_true, nest_succ]
    rw [foldMembers_written hfolds rest, ok_bind]
    dsimp only
    rw [hfinish, ok_bind, hbuild]
    rfl

theorem faithful_record (h : ms.Faithful (least - 1) P) (hparts : ∀ y, parts (build y) = y)
    (hbuild : ∀ x, build (parts x) = x) :
    (record name ms parts build).Faithful least fun x => P (parts x) where
  gives {depth} bs hleast := by
    have hbuilt : ∀ {inner : Nat}, least ≤ inner + 1 → ∀ {y : β}, ms.Given inner y →
        (object (ms.toJson (parts (build y)))).Fits (inner + 1) ∧ P (parts (build y)) := by
      intro inner hinner y hy
      obtain ⟨hfits, hP⟩ := h.fits (Nat.sub_le_of_le_add hinner) hy
      rw [hparts]
      exact ⟨(fits_object_iff (h.wellFormed.nodup_toJson y) inner).mpr hfits, hP⟩
    unfold record
    dsimp only
    split
    next => exact gives_fail _
    next =>
      split
      next =>
        refine gives_nest fun inner hinner => ?_
        subst hinner
        refine Gives.bind (Members.given_readPositions ms _ inner 0 _) fun r hr => ?_
        exact gives_after _ fun _ => gives_ok (hbuilt hleast hr)
      next =>
        split
        next =>
          refine gives_nest fun inner hinner => ?_
          subst hinner
          have hmembers := gives_foldMembers fun s key bs (hs : ms.SlotsRead inner s) =>
            Members.slotsRead_readMember hs key bs
          refine Gives.bind (hmembers _ true (Members.slotsRead_empty ms inner) _) fun r hr => ?_
          refine Gives.bind (Members.given_finish hr) fun y hy => ?_
          exact gives_after _ fun _ => gives_ok (hbuilt hleast hy)
        next => exact gives_mismatch _ _
  spells {depth x} hfits hwhole hP := by
    have hnodup := h.wellFormed.nodup_toJson (parts x)
    obtain ⟨inner, rfl, -⟩ := hfits.of_obj
    have hfolds := h.folds_write ((fits_object_iff hnodup inner).mp hfits)
      ((whole_object_iff hnodup).mp hwhole) hP
    exact spells_record hfolds (h.wellFormed.finish_slotsOf _) (hbuild x)

end Codec

/-! ## Tagged values -/

/-- The value for which a tag stands with its content. -/
inductive Tag.StandsFor : Tag α → Option String → α → Prop where
  | bare (x : α) : StandsFor (.bare x) none x
  | carrying (f : String → α) (s : String) : StandsFor (.carrying f) (some s) (f s)

namespace Tagging

/-- The two keys differ, and each value is found by its tag. -/
structure Lawful (t : Tagging α) : Prop where
  keys : t.tagKey ≠ t.contentKey
  tags : ∀ x, ∃ g, t.tags.find? (·.1 == t.tagOf x) = some (t.tagOf x, g) ∧
    g.StandsFor (t.contentOf x) x

variable {t : Tagging α}

theorem Lawful.nodup_members (h : t.Lawful) (x : α) :
    (((t.members x).map fun m => (m.1, Json.str m.2)).map (·.1)).Nodup := by
  unfold members
  cases t.contentOf x <;> simp [h.keys]

theorem readMember_tag {tag : String} {g : Tag α}
    (h : t.tags.find? (·.1 == tag) = some (tag, g)) (depth : Nat) {rest : Octets}
    (hrest : Follows rest) :
    t.readMember depth .nothing t.tagKey (0x3A :: (octets (writeString tag) ++ rest)) =
      .ok (.tagOnly (tag, g), rest) := by
  have hfind : (t.tags.map fun g => (g.1, g)).find? (·.1 == tag) = some (tag, (tag, g)) := by
    rw [List.find?_map]
    exact congrArg _ h
  have hspells : Spells (t.tagCodec.read depth) (writeString tag) (tag, g) :=
    @Codec.spells_choice _ _ Prod.fst (tag, g) hfind depth
  rw [readMember, if_pos rfl]
  dsimp only
  rw [readColon_colon, ok_bind, hspells.taken rest hrest]
  rfl

theorem readMember_content (h : t.tagKey ≠ t.contentKey) (tag : String) (f : String → α)
    (s : String) (depth : Nat) {rest : Octets} (hrest : Follows rest) :
    t.readMember depth (.tagOnly (tag, .carrying f)) t.contentKey
      (0x3A :: (octets (writeString s) ++ rest)) = .ok (.complete (f s), rest) := by
  have hspells : Spells (Codec.text.read depth) (writeString s) s :=
    Codec.faithful_text.spells (fits_str depth s) (.str s) trivial
  rw [readMember, if_neg h.symm, if_pos rfl]
  dsimp only
  rw [readColon_colon, ok_bind, readContent]
  dsimp only
  rw [hspells.taken rest hrest]
  rfl

/-- Tag and content are read one after the other, and stand for the value. -/
theorem Lawful.folds_members (h : t.Lawful) (x : α) (depth : Nat) :
    ∃ p, Folds (t.readMember depth) .nothing
      ((t.members x).map fun m => (m.1, writeString m.2)) p ∧ t.finish p = .ok x := by
  obtain ⟨g, hfind, hstands⟩ := h.tags x
  have htag : ∀ rest, Follows rest → _ := fun rest hrest => readMember_tag hfind depth hrest
  unfold members
  generalize t.contentOf x = content at hstands
  cases hstands with
  | bare => exact ⟨_, .cons htag (.nil _), rfl⟩
  | carrying f s =>
    exact ⟨_, .cons htag (.cons (fun rest hrest =>
      readMember_content h.keys _ f s depth hrest) (.nil _)), rfl⟩

theorem Lawful.faithful_codec (h : t.Lawful) : t.codec.Faithful 0 fun _ => True where
  gives {depth} bs _ := by
    have hfits : ∀ (inner : Nat) (x : α), (t.codec.toJson x).Fits (inner + 1) := by
      intro inner x
      refine (fits_object_iff (h.nodup_members x) inner).mpr fun m hm => ?_
      obtain ⟨n, -, rfl⟩ := List.mem_map.mp hm
      exact fits_str inner n.2
    show Gives _ (t.codec.read depth bs)
    unfold codec
    dsimp only
    split
    next => exact gives_fail _
    next =>
      split
      next =>
        refine gives_nest fun inner hinner => ?_
        subst hinner
        exact gives_of_forall (fun r => ⟨hfits inner r.1, trivial⟩) _
      next =>
        split
        next =>
          refine gives_nest fun inner hinner => ?_
          subst hinner
          exact gives_of_forall (fun r => ⟨hfits inner r.1, trivial⟩) _
        next => exact gives_mismatch _ _
  spells {depth x} hfits _ _ :=
    { opens := octets_writeObject _ ▸ ⟨0x7B, _, rfl, by decide, by decide⟩
      taken := fun rest _ => by
        obtain ⟨inner, rfl, -⟩ := hfits.of_obj
        obtain ⟨p, hfolds, hfinish⟩ := h.folds_members x inner
        have hbrace : isBlankOctet 0x7B = false := by decide
        have hnoBracket : (0x7B : UInt8) ≠ 0x5B := by decide
        have htext : octets (t.codec.write x) ++ rest =
            0x7B :: (octets (",".intercalate
              (((t.members x).map fun m => (m.1, writeString m.2)).map writeMember)) ++
                0x7D :: rest) := by
          simp [codec, octets_writeObject]
        rw [htext]
        simp only [codec, skipBlanks_cons hbrace, if_neg hnoBracket, if_true, nest_succ]
        rw [foldMembers_written hfolds rest, ok_bind]
        dsimp only
        rw [hfinish, ok_bind]
        rfl }

end Tagging

end PlatformLink.Json
