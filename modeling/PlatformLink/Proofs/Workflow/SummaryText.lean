import PlatformLink.Proofs.Json.AnyOrder
import PlatformLink.Proofs.RoundTrip

/-!
# Summaries as values

A summary that was turned into a value and written as text is read as that summary. What must be
asked of it is asked of its members of any JSON: all its other members are texts and whole numbers.
-/

namespace PlatformLink

open Json Json.Codec Json.Field

/-! ## Reading -/

namespace Workflow

theorem Form.readsJson_codec : Form.codec.ReadsJson fun _ => True :=
  (readsJson_record
    (.cons (readsJson_required _ readsJson_text) (by decide) <|
      .cons (readsJson_required _ readsJson_text) (by decide) <|
      .cons (readsJson_required _ readsJson_text) (by decide) <|
      .cons (readsJson_optional _ readsJson_text) (by decide) .nil)
    (fun _ => rfl)).congr fun f => by simp [Codec.text]

theorem Version.readsJson_codec : Version.codec.ReadsJson fun _ => True :=
  (readsJson_record
    (.cons (readsJson_required _ readsJson_text) (by decide) <|
      .cons (readsJson_required _ readsJson_text) (by decide) <|
      .cons (readsJson_required _ readsJson_uint32) (by decide) <|
      .cons (readsJson_required _ readsJson_uint32) (by decide) .nil)
    (fun _ => rfl)).congr fun v => by simp

theorem InstanceState.readsJson_codec : InstanceState.codec.ReadsJson fun _ => True :=
  readsJson_choice (by rintro (_ | _ | _ | _ | _) <;> decide)

theorem Instance.readsJson_codec : Instance.codec.ReadsJson fun i => some .null ∉ i.optionals :=
  (readsJson_record
    (.cons (readsJson_required _ readsJson_text) (by decide) <|
      .cons (readsJson_required _ readsJson_text) (by decide) <|
      .cons (readsJson_required _ readsJson_text) (by decide) <|
      .cons (readsJson_required _ InstanceState.readsJson_codec) (by decide) <|
      .cons (readsJson_optional _ readsJson_json) (by decide) .nil)
    (fun _ => rfl)).congr fun i => by
      obtain ⟨_, _, _, _, _ | v⟩ := i <;> simp [optionals, Codec.json, eq_comm]

theorem ActivityState.readsJson_codec : ActivityState.codec.ReadsJson fun _ => True :=
  readsJson_choice (by rintro (_ | _ | _ | _) <;> decide)

theorem ActivityFailure.readsJson_codec : ActivityFailure.codec.ReadsJson fun _ => True :=
  (readsJson_record
    (.cons (readsJson_required _ readsJson_text) (by decide) <|
      .cons (readsJson_optional _ readsJson_text) (by decide) .nil)
    (fun _ => rfl)).congr fun f => by simp [Codec.text]

theorem Activity.readsJson_codec : Activity.codec.ReadsJson fun a => some .null ∉ a.optionals :=
  (readsJson_record
    (.cons (readsJson_required _ readsJson_text) (by decide) <|
      .cons (readsJson_required _ readsJson_text) (by decide) <|
      .cons (readsJson_required _ readsJson_text) (by decide) <|
      .cons (readsJson_required _ ActivityState.readsJson_codec) (by decide) <|
      .cons (readsJson_optional _ readsJson_json) (by decide) <|
      .cons (readsJson_optional _ ActivityFailure.readsJson_codec) (by decide) .nil)
    (fun _ => rfl)).congr fun a => by
      have hfailure : ∀ f, ActivityFailure.codec.toJson f ≠ .null := fun _ => nofun
      obtain ⟨_, _, _, _, _ | v, _⟩ := a <;> simp [optionals, Codec.json, hfailure, eq_comm]

theorem WorkflowSummary.readsJson_codec :
    WorkflowSummary.codec.ReadsJson fun s => some .null ∉ s.optionals :=
  (readsJson_record
    (.cons (readsJson_required _ Form.readsJson_codec) (by decide) <|
      .cons (readsJson_required _ Version.readsJson_codec) (by decide) <|
      .cons (readsJson_required _ Instance.readsJson_codec) (by decide) <|
      .cons (readsJson_defaulting _ (readsJson_list Activity.readsJson_codec) []) (by decide)
        .nil)
    (fun _ => rfl)).congr fun s => by simp [optionals]

end Workflow

/-! ## What is asked of members of any JSON -/

namespace Json

/-- Something that holds of a value if it holds of its parts, and of texts and whole numbers. -/
structure Structural (Q : Json → Prop) : Prop where
  str : ∀ s, Q (.str s)
  whole : ∀ n bounds, Q (.num (.whole n bounds))
  arr_iff : ∀ items, Q (.arr items) ↔ ∀ v ∈ items, Q v
  object_iff : ∀ {members : List (String × Json)}, (members.map (·.1)).Nodup →
    (Q (object members) ↔ ∀ m ∈ members, Q m.2)

theorem structural_whole : Structural Whole where
  str := .str
  whole := .num
  arr_iff _ := ⟨Whole.items, .arr⟩
  object_iff := whole_object_iff

theorem structural_sorted : Structural Sorted where
  str := .str
  whole _ _ := .num _
  arr_iff _ := ⟨Sorted.items, .arr⟩
  object_iff := sorted_object_iff

namespace Structural

variable {Q : Json → Prop} {α β δ : Type}

theorem record_iff (hQ : Structural Q) {ms : Members δ β} {name : String} {parts : α → β}
    {build : β → α} (hnames : ms.names.Nodup) (x : α) :
    Q ((record name ms parts build).toJson x) ↔ ∀ m ∈ ms.toJson (parts x), Q m.2 :=
  hQ.object_iff (hnames.sublist (ms.keys_toJson_sublist (parts x)))

theorem members_cons_iff {f : Field α} {rest : Members δ β} {x : α} {xs : β} :
    (∀ m ∈ (Members.cons f rest).toJson (x, xs), Q m.2) ↔
      (f.omitted x = false → Q (f.codec.toJson x)) ∧ ∀ m ∈ rest.toJson xs, Q m.2 := by
  constructor
  · intro h
    exact ⟨fun hkept => h _ (Members.mem_toJson_cons.mpr (.inl ⟨hkept, rfl⟩)),
      fun m hm => h m (Members.mem_toJson_cons.mpr (.inr hm))⟩
  · rintro ⟨hfirst, hrest⟩ m hm
    rcases Members.mem_toJson_cons.mp hm with ⟨hkept, rfl⟩ | hm
    · exact hfirst hkept
    · exact hrest m hm

theorem members_nil_iff : (∀ m ∈ Members.nil.toJson (), Q m.2) ↔ True :=
  iff_true_intro (List.forall_mem_nil _)

theorem required_iff {c : Codec α} (name : String) (x : α) :
    ((required name c).omitted x = false → Q ((required name c).codec.toJson x)) ↔
      Q (c.toJson x) := by
  simp [required]

theorem defaulting_iff {c : Codec α} (name : String) (missing x : α) :
    ((defaulting name c missing).omitted x = false →
      Q ((defaulting name c missing).codec.toJson x)) ↔ Q (c.toJson x) := by
  simp [defaulting]

theorem optional_iff {c : Codec α} (name : String) (o : Option α) :
    ((Field.optional name c).omitted o = false → Q ((Field.optional name c).codec.toJson o)) ↔
      ∀ x ∈ o, Q (c.toJson x) := by
  cases o <;> simp [Field.optional, Codec.option]

theorem text (hQ : Structural Q) (s : String) : Q (Codec.text.toJson s) := hQ.str s

theorem uint32 (hQ : Structural Q) (n : UInt32) : Q (Codec.uint32.toJson n) := hQ.whole _ _

theorem list_iff (hQ : Structural Q) {c : Codec α} (xs : List α) :
    Q ((Codec.list c).toJson xs) ↔ ∀ x ∈ xs, Q (c.toJson x) := by
  simp [Codec.list, hQ.arr_iff]

end Structural

end Json

namespace Workflow

open Json.Structural

section

variable {Q : Json → Prop} (hQ : Structural Q)
include hQ

theorem Form.structural (f : Form) : Q (Form.codec.toJson f) := by
  refine (hQ.record_iff (by decide) f).mpr ?_
  simp only [members_cons_iff, required_iff, optional_iff, members_nil_iff, hQ.text, implies_true,
    and_self]

theorem Version.structural (v : Version) : Q (Version.codec.toJson v) := by
  refine (hQ.record_iff (by decide) v).mpr ?_
  simp only [members_cons_iff, required_iff, members_nil_iff, hQ.text, hQ.uint32, and_self]

theorem ActivityFailure.structural (f : ActivityFailure) : Q (ActivityFailure.codec.toJson f) := by
  refine (hQ.record_iff (by decide) f).mpr ?_
  simp only [members_cons_iff, required_iff, optional_iff, members_nil_iff, hQ.text, implies_true,
    and_self]

theorem Instance.structural_iff (i : Instance) :
    Q (Instance.codec.toJson i) ↔ ∀ v, some v ∈ i.optionals → Q v := by
  have hstate : Q (InstanceState.codec.toJson i.state) := hQ.str _
  refine (hQ.record_iff (by decide) i).trans ?_
  simp only [members_cons_iff, required_iff, optional_iff, members_nil_iff, hQ.text, hstate]
  simp [optionals, Codec.json, eq_comm]

theorem Activity.structural_iff (a : Activity) :
    Q (Activity.codec.toJson a) ↔ ∀ v, some v ∈ a.optionals → Q v := by
  have hstate : Q (ActivityState.codec.toJson a.state) := hQ.str _
  refine (hQ.record_iff (by decide) a).trans ?_
  simp only [members_cons_iff, required_iff, optional_iff, members_nil_iff, hQ.text, hstate,
    ActivityFailure.structural hQ]
  simp [optionals, Codec.json, eq_comm]

/-- What holds of the members of any JSON holds of the summary. -/
theorem WorkflowSummary.structural_iff (s : WorkflowSummary) :
    Q (WorkflowSummary.codec.toJson s) ↔ ∀ v, some v ∈ s.optionals → Q v := by
  refine (hQ.record_iff (by decide) s).trans ?_
  simp only [members_cons_iff, required_iff, defaulting_iff, members_nil_iff, hQ.list_iff,
    Form.structural hQ, Version.structural hQ, Instance.structural_iff hQ,
    Activity.structural_iff hQ]
  simp only [optionals, List.mem_append, List.mem_flatMap, or_imp, forall_and, true_and, and_true,
    forall_exists_index, and_imp]
  exact and_congr_right fun _ => ⟨fun h v a ha => h a ha v, fun h a ha v => h v a ha⟩

end

/-! ### Nesting -/

section

variable (depth : Nat)

theorem within_record_iff {α β δ : Type} {ms : Members δ β} {name : String} {parts : α → β}
    {build : β → α} (hnames : ms.names.Nodup) (x : α) :
    ((record name ms parts build).toJson x).Within (depth + 1) ↔
      ∀ m ∈ ms.toJson (parts x), m.2.Within depth :=
  within_object_iff (hnames.sublist (ms.keys_toJson_sublist (parts x))) depth

theorem Form.within (f : Form) : (Form.codec.toJson f).Within (depth + 1) := by
  refine (within_record_iff depth (by decide) f).mpr ?_
  simp only [members_cons_iff, required_iff, optional_iff, members_nil_iff, Codec.text, Within,
    implies_true, and_self]

theorem Version.within (v : Version) : (Version.codec.toJson v).Within (depth + 1) := by
  refine (within_record_iff depth (by decide) v).mpr ?_
  simp only [members_cons_iff, required_iff, members_nil_iff, Codec.text, Codec.uint32, ofUInt32,
    Within, and_self]

theorem ActivityFailure.within (f : ActivityFailure) :
    (ActivityFailure.codec.toJson f).Within (depth + 1) := by
  refine (within_record_iff depth (by decide) f).mpr ?_
  simp only [members_cons_iff, required_iff, optional_iff, members_nil_iff, Codec.text, Within,
    implies_true, and_self]

theorem Instance.within_iff (i : Instance) :
    (Instance.codec.toJson i).Within (depth + 1) ↔ ∀ v ∈ i.result, v.Within depth := by
  refine (within_record_iff depth (by decide) i).trans ?_
  simp only [members_cons_iff, required_iff, optional_iff, members_nil_iff, Codec.text,
    InstanceState.codec, choice, Within, true_and, and_true]
  rfl

theorem Activity.within_iff (a : Activity) :
    (Activity.codec.toJson a).Within (depth + 2) ↔ ∀ v ∈ a.result, v.Within (depth + 1) := by
  refine (within_record_iff (depth + 1) (by decide) a).trans ?_
  simp only [members_cons_iff, required_iff, optional_iff, members_nil_iff, Codec.text,
    ActivityState.codec, choice, ActivityFailure.within, Within, implies_true, true_and, and_true]
  rfl

/-- How deep the members of any JSON may be nested. -/
theorem WorkflowSummary.within_iff (s : WorkflowSummary) :
    (WorkflowSummary.codec.toJson s).Within (depth + 4) ↔
      (∀ v ∈ s.current.result, v.Within (depth + 2)) ∧
        ∀ a ∈ s.activities, ∀ v ∈ a.result, v.Within (depth + 1) := by
  refine (within_record_iff (depth + 3) (by decide) s).trans ?_
  simp only [members_cons_iff, required_iff, defaulting_iff, members_nil_iff, Form.within,
    Version.within, Instance.within_iff, Codec.list, Within, List.forall_mem_map,
    Activity.within_iff, true_and, and_true]

end

/-! ### Texts that hold summaries -/

/-- A summary that a text can hold. Of its members of any JSON it is supposed that their objects are
sorted by key, which their type guarantees, that they hold no floating point number, and that none
of them is `null`, which is read as missing. -/
structure WorkflowSummary.Storable (s : WorkflowSummary) : Prop where
  sorted : ∀ v, some v ∈ s.optionals → v.Sorted
  whole : ∀ v, some v ∈ s.optionals → v.Whole
  present : some .null ∉ s.optionals
  within : (codec.toJson s).Within greatestDepth

/-- The text of the value is read as the summary. -/
theorem WorkflowSummary.Storable.decode_write {s : WorkflowSummary} (h : s.Storable) :
    codec.decode (codec.toJson s).write = .ok s := by
  have hsorted := (structural_iff structural_sorted s).mpr h.sorted
  have hwhole := (structural_iff structural_whole s).mpr h.whole
  exact decode_of_spells (readsJson_codec.spells ⟨h.within, hsorted⟩ hwhole h.present)

/-- A summary with a member of any JSON. -/
def WorkflowSummary.waiting : WorkflowSummary where
  form := ⟨"form 1", "billing", "Billing", none⟩
  version := ⟨"version 1", "form 1", 2, 0⟩
  current := ⟨"a/b", "version 1", "First", .waiting, some (.arr [.str "due"])⟩
  activities := []

theorem WorkflowSummary.storable_waiting : waiting.Storable := by
  have honly : ∀ v, some v ∈ waiting.optionals → v = .arr [.str "due"] := by
    simp [waiting, optionals, Instance.optionals]
  constructor
  case sorted =>
    intro v hv
    rw [honly v hv]
    exact .arr (by simpa using Json.Sorted.str "due")
  case whole =>
    intro v hv
    rw [honly v hv]
    exact .arr (by simpa using Json.Whole.str "due")
  case present =>
    intro hnull
    cases honly _ hnull
  case within =>
    refine (within_iff 123 waiting).mpr ⟨fun v hv => ?_, List.forall_mem_nil _⟩
    rw [← Option.some.inj hv]
    exact (Json.fits_arr (by simpa using Json.fits_str _ "due")).within

end Workflow

end PlatformLink
