import PlatformLink.Proofs.Json.Reading

/-!
# Candid codecs

A codec is candid when every failure of its reader is. The plain codecs are, and a codec that is
composed of candid ones is candid as long as the names it puts into its messages are no tokens. A
record is looked at member by member, so a new member asks for nothing but its own codec and name.
-/

namespace PlatformLink.Json

open Text (HoldsToken Octets)

variable {α β δ : Type}

/-! ## What stands where something else was expected -/

theorem meets_readFound (bs : Octets) : Meets Found.Candid (readFound bs) := by
  unfold readFound
  split
  next => exact meets_fail _
  next =>
    split
    next => exact Meets.after (failsCandidly_readWord _ _) fun _ => Found.candid_null
    next =>
    split
    next => exact Meets.after (failsCandidly_readWord _ _) fun _ => Found.candid_bool true
    next =>
    split
    next => exact Meets.after (failsCandidly_readWord _ _) fun _ => Found.candid_bool false
    next =>
    split
    next => exact Meets.bind (meets_readNumber true _) fun _ hn => hn
    next =>
    split
    next => exact Meets.bind (meets_readNumber false _) fun _ hn => hn
    next =>
    split
    next => exact Meets.after (failsCandidly_readString _) fun r => Found.candid_str r.1
    next =>
    split
    next => exact Found.candid_sequence
    next =>
    split
    next => exact Found.candid_map
    next => exact meets_fail _

theorem meets_mismatch {P : α → Prop} {expected : String} (h : ¬HoldsToken expected.toList)
    (bs : Octets) : Meets P (mismatch expected bs : Decoded α) :=
  Meets.bind (meets_readFound bs) fun _ hf => DecodeError.candid_wrongType hf h

theorem meets_nest {P : α → Prop} {inner : Nat → Decoded α} (h : ∀ depth, Meets P (inner depth))
    (depth : Nat) : Meets P (nest depth inner) := by
  cases depth with
  | zero => exact meets_fail _
  | succ depth => exact h depth

namespace Codec

/-- A codec of which every failure to read is candid. -/
def Candid (c : Codec α) : Prop :=
  ∀ depth bs, FailsCandidly (c.read depth bs)

theorem candid_json : json.Candid := fun depth bs =>
  (readsBriefly_readValue depth).failsCandidly bs

theorem failsCandidly_readTextAs {expected : String} (h : ¬HoldsToken expected.toList)
    (bs : Octets) : FailsCandidly (readTextAs expected bs) := by
  unfold readTextAs
  split
  next => exact meets_fail _
  next =>
    split
    next => exact failsCandidly_readString _
    next => exact meets_mismatch h _

theorem candid_text : text.Candid := fun _ bs => failsCandidly_readTextAs (by decide) bs

theorem failsCandidly_natBelow {bound : Nat} {expected : String}
    (h : ¬HoldsToken expected.toList) {n : Number} (hn : n.Brief) :
    FailsCandidly (natBelow bound expected n) := by
  unfold natBelow
  split
  next i hi =>
    have hfound : (Found.whole i).Candid := hn
    split
    next => exact trivial
    next => exact DecodeError.candid_wrongValue hfound h
  next x =>
    have hfound : (Found.real x).Candid := hn
    exact DecodeError.candid_wrongType hfound h

theorem failsCandidly_readNatBelow {bound : Nat} {expected : String}
    (h : ¬HoldsToken expected.toList) (bs : Octets) :
    FailsCandidly (readNatBelow bound expected bs) := by
  have hnumber : ∀ negative cs, FailsCandidly (readNumber negative cs >>= fun r =>
      natBelow bound expected r.1 >>= fun k => pure (k, r.2)) := by
    intro negative cs
    refine Meets.bind (meets_readNumber negative cs) fun r hr => ?_
    exact Meets.after (failsCandidly_natBelow h hr) fun _ => trivial
  unfold readNatBelow
  split
  next => exact meets_fail _
  next =>
    split
    next => exact hnumber true _
    next =>
      split
      next => exact hnumber false _
      next => exact meets_mismatch h _

theorem candid_uint32 : uint32.Candid := fun _ bs =>
  Meets.after (failsCandidly_readNatBelow (by decide) bs) fun _ => trivial

theorem candid_uint64 : uint64.Candid := fun _ bs =>
  Meets.after (failsCandidly_readNatBelow (by decide) bs) fun _ => trivial

theorem candid_option {c : Codec α} (h : c.Candid) : c.option.Candid := by
  intro depth bs
  unfold option
  dsimp only
  split
  next => exact meets_fail _
  next =>
    split
    next => exact Meets.after (failsCandidly_readWord _ _) fun _ => trivial
    next => exact Meets.after (h depth _) fun _ => trivial

theorem candid_list {c : Codec α} (h : c.Candid) : c.list.Candid := by
  intro depth bs
  unfold list
  dsimp only
  split
  next => exact meets_fail _
  next =>
    split
    next =>
      refine meets_nest (fun depth => ?_) depth
      refine Meets.after (failsCandidly_readItems (h depth) _ _ _ _) fun r => ?_
      exact Meets.after (failsCandidly_endItems r.2) fun _ => trivial
    next => exact meets_mismatch (by decide) _

/-- So is the failure to read a whole text. -/
theorem failsCandidly_decodeOctets {c : Codec α} (h : c.Candid) (bs : Octets) :
    FailsCandidly (c.decodeOctets bs) := by
  have hend : ∀ rest, FailsCandidly (endText rest) := by
    intro rest
    unfold endText
    split
    next => exact trivial
    next => exact meets_fail _
  exact Meets.after (h greatestDepth bs) fun r => Meets.after (hend r.2) fun _ => trivial

/-! ## Variants -/

/-- A variant that is found is one of those that are known. -/
theorem meets_variant {P : α → Prop} {variants : List (String × α)}
    (h : ∀ v ∈ variants, ¬HoldsToken v.1.toList ∧ P v.2) (name : String) :
    Meets P (variant variants name) := by
  unfold variant
  split
  next v hv => exact (h v (List.mem_of_find?_eq_some hv)).2
  next =>
    refine DecodeError.candid_unknownVariant fun n hn => ?_
    obtain ⟨v, hv, rfl⟩ := List.mem_map.mp hn
    exact (h v hv).1

theorem failsCandidly_readUnit (bs : Octets) : FailsCandidly (readUnit bs) := by
  unfold readUnit
  split
  next => exact meets_fail _
  next =>
    split
    next => exact failsCandidly_readWord _ _
    next => exact meets_mismatch (by decide) _

theorem failsCandidly_readVariantKey (bs : Octets) : FailsCandidly (readVariantKey bs) := by
  unfold readVariantKey
  split
  next => exact meets_fail _
  next =>
    split
    next => exact failsCandidly_readString _
    next => split <;> exact meets_fail _

theorem failsCandidly_endVariant (bs : Octets) : FailsCandidly (endVariant bs) := by
  unfold endVariant
  split
  next => exact meets_fail _
  next => split <;> first | exact trivial | exact meets_fail _

theorem meets_choice {P : α → Prop} {variants : List (String × α)}
    (h : ∀ v ∈ variants, ¬HoldsToken v.1.toList ∧ P v.2) (name : α → String) (depth : Nat)
    (bs : Octets) : Meets (fun r => P r.1) ((choice variants name).read depth bs) := by
  unfold choice
  dsimp only
  split
  next => exact meets_fail _
  next =>
    split
    next =>
      refine Meets.after (failsCandidly_readString _) fun r => ?_
      exact Meets.bind (meets_variant h r.1) fun _ hx => hx
    next =>
      split
      next =>
        refine meets_nest (fun _ => ?_) depth
        refine Meets.after (failsCandidly_readVariantKey _) fun r => ?_
        refine Meets.bind (meets_variant h r.1) fun x hx => ?_
        refine Meets.after (failsCandidly_readColon r.2) fun rest => ?_
        refine Meets.after (failsCandidly_readUnit rest) fun rest => ?_
        exact Meets.after (failsCandidly_endVariant rest) fun _ => hx
      next => exact meets_fail _

theorem candid_choice {variants : List (String × α)}
    (h : ∀ v ∈ variants, ¬HoldsToken v.1.toList) (name : α → String) :
    (choice variants name).Candid := fun depth bs =>
  (meets_choice (P := fun _ => True) (fun v hv => ⟨h v hv, trivial⟩) name depth bs).mono
    fun _ _ => trivial

end Codec

/-! ## Records -/

namespace Members

def names {δ β : Type} : Members δ β → List String
  | nil => []
  | cons f rest => f.name :: rest.names

/-- Every member has a candid codec. -/
def Candid {δ β : Type} : Members δ β → Prop
  | nil => True
  | cons f rest => f.codec.Candid ∧ rest.Candid

theorem candid_nil : nil.Candid := trivial

theorem candid_cons {f : Field α} {rest : Members δ β} (hcodec : f.codec.Candid)
    (hrest : rest.Candid) : (cons f rest).Candid :=
  ⟨hcodec, hrest⟩

/-- A claimed member is read candidly, and so is its refusal. -/
theorem meets_claim {ms : Members δ β} (h : ms.Candid)
    (hnames : ∀ n ∈ ms.names, ¬HoldsToken n.toList) (key : String) (slots : δ)
    {x : Decoded (Nat → Octets → Decoded (δ × Octets))} (hx : ms.claim key slots = some x) :
    Meets (fun read => ∀ depth bs, FailsCandidly (read depth bs)) x := by
  induction ms with
  | nil => cases hx
  | cons f rest ih =>
    obtain ⟨hcodec, hrest⟩ := h
    obtain ⟨hname, hnames⟩ := List.forall_mem_cons.mp hnames
    obtain ⟨slot, slots⟩ := slots
    rw [claim] at hx
    by_cases hkey : key = f.name
    · rw [if_pos hkey] at hx
      rw [← Option.some.inj hx]
      split
      next => exact DecodeError.candid_duplicateField hname
      next => exact fun depth bs => Meets.after (hcodec depth bs) fun _ => trivial
    · rw [if_neg hkey] at hx
      obtain ⟨y, hy, rfl⟩ := Option.map_eq_some_iff.mp hx
      have hmeets := ih hrest hnames slots hy
      cases y with
      | error d => exact hmeets
      | ok read => exact fun depth bs => Meets.after (hmeets depth bs) fun _ => trivial

theorem failsCandidly_finish {ms : Members δ β} (hnames : ∀ n ∈ ms.names, ¬HoldsToken n.toList)
    (slots : δ) : FailsCandidly (ms.finish slots) := by
  induction ms with
  | nil => exact trivial
  | cons f rest ih =>
    obtain ⟨hname, hnames⟩ := List.forall_mem_cons.mp hnames
    obtain ⟨slot, slots⟩ := slots
    rw [finish]
    split
    next => exact Meets.after (ih hnames slots) fun _ => trivial
    next => exact DecodeError.candid_missingField hname

theorem failsCandidly_readPositions {ms : Members δ β} (h : ms.Candid) {expected : String}
    (hexpected : ¬HoldsToken expected.toList) (depth index : Nat)
    (hindex : index + ms.size ≤ 10 ^ 19) (bs : Octets) :
    FailsCandidly (ms.readPositions expected depth index bs) := by
  induction ms generalizing index bs with
  | nil => exact trivial
  | cons f rest ih =>
    obtain ⟨hcodec, hrest⟩ := h
    rw [size] at hindex
    have hnext : ∀ cs, FailsCandidly (rest.readPositions expected depth (index + 1) cs) :=
      ih hrest (index + 1) (by omega)
    rw [readPositions]
    refine Meets.after (failsCandidly_nextItem _ bs) fun r => ?_
    split
    next =>
      refine Meets.after (hcodec depth _) fun r => ?_
      exact Meets.after (hnext r.2) fun _ => trivial
    next =>
      split
      next => exact Meets.after (hnext _) fun _ => trivial
      next => exact DecodeError.candid_wrongLength (by omega) hexpected

theorem failsCandidly_readMember {ms : Members δ β} (h : ms.Candid)
    (hnames : ∀ n ∈ ms.names, ¬HoldsToken n.toList) (depth : Nat) (slots : δ) (key : String)
    (bs : Octets) : FailsCandidly (ms.readMember depth slots key bs) := by
  unfold readMember
  split
  next =>
    refine Meets.after (failsCandidly_readColon bs) fun rest => ?_
    exact Meets.after (failsCandidly_skipValue rest) fun _ => trivial
  next d hd => exact meets_claim h hnames key slots hd
  next read hread =>
    exact Meets.after (failsCandidly_readColon bs) (meets_claim h hnames key slots hread depth)

end Members

/-- A record of candid members, with names that are no tokens. -/
theorem Codec.candid_record {name : String} {ms : Members δ β} {parts : α → β} {build : β → α}
    (hnames : ∀ n ∈ name :: ms.names, ¬HoldsToken n.toList) (hsize : ms.size ≤ 10 ^ 19)
    (hms : ms.Candid) : (Codec.record name ms parts build).Candid := by
  obtain ⟨hname, hnames⟩ := List.forall_mem_cons.mp hnames
  have hstruct : ¬HoldsToken ("struct " ++ name).toList := by
    rw [Text.holdsToken_append_of_closes (by decide)]
    exact not_or.mpr ⟨by decide, hname⟩
  have helements : ¬HoldsToken ("struct " ++ name ++ " with " ++ toString ms.size ++
      (if ms.size = 1 then " element" else " elements")).toList := by
    have hlast : Text.opens (if ms.size = 1 then " element" else " elements") = true := by
      split <;> decide
    have hwith : Text.closes ("struct " ++ name ++ " with ") = true := by
      rw [Text.closes_append _ (by decide)]
      decide
    rw [Text.holdsToken_append_of_opens _ hlast, Text.holdsToken_append_of_closes hwith,
      Text.holdsToken_append_of_opens _ (by decide)]
    refine not_or.mpr ⟨not_or.mpr ⟨not_or.mpr ⟨hstruct, by decide⟩, ?_⟩, ?_⟩
    · exact not_holdsToken_nat (by omega)
    · split <;> decide
  intro depth bs
  unfold record
  dsimp only
  split
  next => exact meets_fail _
  next =>
    split
    next =>
      refine meets_nest (fun depth => ?_) depth
      refine Meets.after (Members.failsCandidly_readPositions hms helements depth 0 (by omega) _)
        fun r => ?_
      exact Meets.after (failsCandidly_endItems r.2) fun _ => trivial
    next =>
      split
      next =>
        refine meets_nest (fun depth => ?_) depth
        have hmember : ∀ slots key bs, True → FailsCandidly (ms.readMember depth slots key bs) :=
          fun slots key bs _ => Members.failsCandidly_readMember hms hnames depth slots key bs
        refine Meets.after (meets_foldMembers hmember _ true trivial _) fun r => ?_
        refine Meets.after (Members.failsCandidly_finish hnames r.1) fun _ => ?_
        exact Meets.after (failsCandidly_endMembers r.2) fun _ => trivial
      next => exact meets_mismatch hstruct _

/-! ## Tagged values -/

namespace Tagging

/-- The names of a tagging are no tokens. -/
structure Candid (t : Tagging α) : Prop where
  name : ¬HoldsToken t.name.toList
  tagKey : ¬HoldsToken t.tagKey.toList
  contentKey : ¬HoldsToken t.contentKey.toList
  tags : ∀ g ∈ t.tags, ¬HoldsToken g.1.toList

variable {t : Tagging α}

theorem not_holdsToken_expected (h : t.Candid) : ¬HoldsToken t.expected.toList := by
  have hexpected : ¬HoldsToken ("adjacently tagged enum " ++ t.name).toList := by
    rw [Text.holdsToken_append_of_closes (by decide)]
    exact not_or.mpr ⟨by decide, h.name⟩
  exact hexpected

theorem not_holdsToken_bareExpected (h : t.Candid) {tag : String} (htag : ¬HoldsToken tag.toList) :
    ¬HoldsToken (t.bareExpected tag).toList := by
  have hcloses : Text.closes ("unit variant " ++ t.name ++ "::") = true := by
    rw [Text.closes_append _ (by decide)]
    decide
  have hvariant : ¬HoldsToken ("unit variant " ++ t.name ++ "::").toList :=
    not_holdsToken_between (by decide) (by decide) (by decide) h.name (by decide)
  rw [bareExpected, Text.holdsToken_append_of_closes hcloses]
  exact not_or.mpr ⟨hvariant, htag⟩

/-- Tags that are read are those of the tagging. -/
theorem Candid.variants (h : t.Candid) :
    ∀ v ∈ t.tags.map fun g => (g.1, g),
      ¬HoldsToken v.1.toList ∧ ¬HoldsToken v.2.1.toList := by
  intro v hv
  obtain ⟨g, hg, rfl⟩ := List.mem_map.mp hv
  exact ⟨h.tags g hg, h.tags g hg⟩

theorem meets_tagCodec (h : t.Candid) (depth : Nat) (bs : Octets) :
    Meets (fun r => ¬HoldsToken r.1.1.toList) (t.tagCodec.read depth bs) :=
  Codec.meets_choice (P := fun g : String × Tag α => ¬HoldsToken g.1.toList) h.variants _ depth bs

theorem meets_readTagName (h : t.Candid) (bs : Octets) :
    Meets (fun r => ¬HoldsToken r.1.1.toList) (t.readTagName bs) := by
  refine Meets.after (Codec.failsCandidly_readTextAs (by decide) bs) fun r => ?_
  exact Meets.bind (Codec.meets_variant h.variants r.1) fun _ hg => hg

theorem failsCandidly_readContent (h : t.Candid) {g : String × Tag α}
    (hg : ¬HoldsToken g.1.toList) (depth : Nat) (bs : Octets) :
    FailsCandidly (t.readContent g depth bs) := by
  have hexpected := not_holdsToken_bareExpected h hg
  unfold readContent
  split
  next =>
    split
    next => exact meets_fail _
    next =>
      split
      next => exact Meets.after (failsCandidly_readWord _ _) fun _ => trivial
      next =>
        split
        next => exact meets_nest (fun _ => meets_mismatch hexpected _) depth
        next => exact meets_mismatch hexpected _
  next => exact Meets.after (Codec.candid_text depth bs) fun _ => trivial

theorem failsCandidly_textOfJson {v : Json} (hv : (found v).Candid) :
    FailsCandidly (Codec.text.ofJson v) := by
  cases v with
  | str s => exact trivial
  | _ => exact DecodeError.candid_wrongType hv (by decide)

theorem failsCandidly_ofContent (h : t.Candid) {g : String × Tag α}
    (hg : ¬HoldsToken g.1.toList) {v : Json} (hv : (found v).Candid) :
    FailsCandidly (t.ofContent g v) := by
  unfold ofContent
  split
  next => exact trivial
  next => exact DecodeError.candid_wrongType hv (not_holdsToken_bareExpected h hg)
  next => exact Meets.after (failsCandidly_textOfJson hv) fun _ => trivial

theorem failsCandidly_withoutContent (h : t.Candid) (g : String × Tag α) :
    FailsCandidly (t.withoutContent g) := by
  unfold withoutContent
  split
  next => exact trivial
  next => exact DecodeError.candid_missingField h.contentKey

/-- What is kept while an object is read cannot spoil a later message. -/
def Progress.Candid : Progress α → Prop
  | .tagOnly g => ¬HoldsToken g.1.toList
  | .contentOnly v => (found v).Candid
  | .nothing | .complete _ => True

theorem meets_readMember (h : t.Candid) (depth : Nat) (p : Progress α) (key : String)
    (bs : Octets) (hp : p.Candid) : Meets (fun r => r.1.Candid) (t.readMember depth p key bs) := by
  unfold readMember
  split
  next =>
    cases p with
    | nothing =>
      refine Meets.after (failsCandidly_readColon bs) fun rest => ?_
      exact Meets.bind (meets_tagCodec h depth rest) fun _ hg => hg
    | contentOnly v =>
      refine Meets.after (failsCandidly_readColon bs) fun rest => ?_
      refine Meets.bind (meets_tagCodec h depth rest) fun r hg => ?_
      exact Meets.after (failsCandidly_ofContent h hg hp) fun _ => trivial
    | tagOnly g => exact DecodeError.candid_duplicateField h.tagKey
    | complete x => exact DecodeError.candid_duplicateField h.tagKey
  next =>
    split
    next =>
      cases p with
      | nothing =>
        refine Meets.after (failsCandidly_readColon bs) fun rest => ?_
        exact Meets.bind (readsBriefly_readValue depth rest) fun _ hv => hv
      | tagOnly g =>
        refine Meets.after (failsCandidly_readColon bs) fun rest => ?_
        exact Meets.after (failsCandidly_readContent h hp depth rest) fun _ => trivial
      | contentOnly v => exact DecodeError.candid_duplicateField h.contentKey
      | complete x => exact DecodeError.candid_duplicateField h.contentKey
    next =>
      refine Meets.after (failsCandidly_readColon bs) fun rest => ?_
      exact Meets.after (failsCandidly_skipValue rest) fun _ => hp

theorem failsCandidly_finish (h : t.Candid) (p : Progress α) : FailsCandidly (t.finish p) := by
  cases p with
  | nothing => exact DecodeError.candid_missingField h.tagKey
  | contentOnly v => exact DecodeError.candid_missingField h.tagKey
  | tagOnly g => exact failsCandidly_withoutContent h g
  | complete x => exact trivial

theorem failsCandidly_readPositions (h : t.Candid) (depth : Nat) (bs : Octets) :
    FailsCandidly (t.readPositions depth bs) := by
  refine Meets.after (failsCandidly_nextItem true bs) fun r => ?_
  split
  next => exact DecodeError.candid_wrongLength (by decide) (not_holdsToken_expected h)
  next =>
    refine Meets.bind (meets_readTagName h _) fun r hg => ?_
    refine Meets.after (failsCandidly_nextItem false r.2) fun next => ?_
    split
    next => exact DecodeError.candid_wrongLength (by decide) (not_holdsToken_expected h)
    next => exact failsCandidly_readContent h hg depth _

theorem candid_codec (h : t.Candid) : t.codec.Candid := by
  intro depth bs
  unfold codec
  dsimp only
  split
  next => exact meets_fail _
  next =>
    split
    next =>
      refine meets_nest (fun depth => ?_) depth
      refine Meets.after (failsCandidly_readPositions h depth _) fun r => ?_
      exact Meets.after (failsCandidly_endItems r.2) fun _ => trivial
    next =>
      split
      next =>
        refine meets_nest (fun depth => ?_) depth
        have hmembers := meets_foldMembers (meets_readMember h depth)
        refine Meets.bind (hmembers _ true (s := .nothing) trivial _) fun r _ => ?_
        refine Meets.after (failsCandidly_finish h r.1) fun _ => ?_
        exact Meets.after (failsCandidly_endMembers r.2) fun _ => trivial
      next => exact meets_mismatch (not_holdsToken_expected h) _

end Tagging

end PlatformLink.Json
