import Mathlib.Data.List.Basic
import PlatformLink.Storage.Directory

/-!
# The table of a directory

A directory keeps its files sorted by their names, so it holds at most one file of a name. As long
as that is so (`Sorted`), what an operation does to the table can be said by membership alone: which
files the table holds afterwards.
-/

namespace PlatformLink.Storage

/-- The names increase. -/
def Sorted (files : List FileEntry) : Prop :=
  files.Pairwise (·.name < ·.name)

theorem Sorted.eq_of_name {files : List FileEntry} (h : Sorted files) {e f : FileEntry}
    (he : e ∈ files) (hf : f ∈ files) (hname : e.name = f.name) : e = f := by
  induction files with
  | nil => cases he
  | cons g rest ih =>
    obtain ⟨hg, hrest⟩ := List.pairwise_cons.mp h
    have hne : ∀ k ∈ rest, k.name ≠ g.name := fun k hk heq => String.lt_irrefl _ (heq ▸ hg k hk)
    rcases List.mem_cons.mp he with rfl | he'
    · rcases List.mem_cons.mp hf with rfl | hf'
      · rfl
      · exact absurd hname.symm (hne f hf')
    · rcases List.mem_cons.mp hf with rfl | hf'
      · exact absurd hname (hne e he')
      · exact ih hrest he' hf'

/-! ## Putting a file in its place -/

/-- A file that is put in its place takes the place of the one of its name. -/
theorem mem_insertEntry {files : List FileEntry} (h : Sorted files) {e f : FileEntry} :
    f ∈ insertEntry e files ↔ f = e ∨ f ∈ files ∧ f.name ≠ e.name := by
  induction files with
  | nil => simp [insertEntry_nil]
  | cons g rest ih =>
    obtain ⟨hg, hrest⟩ := List.pairwise_cons.mp h
    rw [insertEntry]
    split
    next hlt =>
      -- every name of the table is greater
      have hne : ∀ k ∈ g :: rest, k.name ≠ e.name := by
        intro k hk heq
        rcases List.mem_cons.mp hk with rfl | hk
        · exact String.lt_irrefl _ (heq ▸ hlt)
        · exact String.lt_irrefl _ (heq ▸ String.lt_trans hlt (hg k hk))
      rw [List.mem_cons]
      exact or_congr_right ⟨fun hk => ⟨hk, hne f hk⟩, fun hk => hk.1⟩
    next =>
    split
    next heq =>
      have hne : ∀ k ∈ rest, k.name ≠ e.name := fun k hk hname =>
        String.lt_irrefl _ (hname.trans heq ▸ hg k hk)
      rw [List.mem_cons, List.mem_cons]
      refine or_congr_right ⟨fun hk => ⟨Or.inr hk, hne f hk⟩, ?_⟩
      rintro ⟨rfl | hk, hname⟩
      · exact absurd heq.symm hname
      · exact hk
    next hne =>
      rw [List.mem_cons, ih hrest, List.mem_cons]
      constructor
      · rintro (rfl | rfl | hk)
        · exact Or.inr ⟨Or.inl rfl, fun heq => hne heq.symm⟩
        · exact Or.inl rfl
        · exact Or.inr ⟨Or.inr hk.1, hk.2⟩
      · rintro (rfl | ⟨rfl | hk, hname⟩)
        · exact Or.inr (Or.inl rfl)
        · exact Or.inl rfl
        · exact Or.inr (Or.inr ⟨hk, hname⟩)

theorem sorted_insertEntry {files : List FileEntry} (h : Sorted files) (e : FileEntry) :
    Sorted (insertEntry e files) := by
  induction files with
  | nil => exact List.pairwise_singleton _ _
  | cons g rest ih =>
    obtain ⟨hg, hrest⟩ := List.pairwise_cons.mp h
    rw [insertEntry]
    split
    next hlt =>
      refine List.pairwise_cons.mpr ⟨fun k hk => ?_, h⟩
      rcases List.mem_cons.mp hk with rfl | hk
      · exact hlt
      · exact String.lt_trans hlt (hg k hk)
    next hnlt =>
    split
    next heq =>
      refine List.pairwise_cons.mpr ⟨fun k hk => ?_, hrest⟩
      rw [heq]
      exact hg k hk
    next hne =>
      refine List.pairwise_cons.mpr ⟨fun k hk => ?_, ih hrest⟩
      rcases (mem_insertEntry hrest).mp hk with rfl | hk
      · exact Std.lt_of_le_of_ne (String.not_lt.mp hnlt) fun heq => hne heq.symm
      · exact hg k hk.1

/-! ## The file of a handle -/

/-- A file is the one of a handle. -/
def FileEntry.IsOf (e : FileEntry) (h : FileHandle) : Prop :=
  e.name = h.name ∧ e.generation = h.generation

theorem FileEntry.isOf_iff {e : FileEntry} {h : FileHandle} :
    (e.name == h.name && e.generation == h.generation) = true ↔ e.IsOf h := by
  rw [Bool.and_eq_true, beq_iff_eq, beq_iff_eq, IsOf]

namespace MemoryDirectory

variable {d : MemoryDirectory} {h : FileHandle} {e : FileEntry}

theorem entry?_eq_some_iff (hd : Sorted d.files) :
    d.entry? h = some e ↔ e ∈ d.files ∧ e.IsOf h := by
  constructor
  · intro he
    have hp := List.find?_some he
    exact ⟨List.mem_of_find?_eq_some he, FileEntry.isOf_iff.mp hp⟩
  · rintro ⟨hmem, hof⟩
    cases hfound : d.entry? h with
    | none => exact absurd (FileEntry.isOf_iff.mpr hof) (List.find?_eq_none.mp hfound e hmem)
    | some f =>
      have hp := List.find?_some hfound
      have hf := FileEntry.isOf_iff.mp hp
      rw [hd.eq_of_name (List.mem_of_find?_eq_some hfound) hmem (hf.1.trans hof.1.symm)]

theorem ensureCurrent_eq_ok_iff : d.ensureCurrent h = .ok () ↔ ∃ e, d.entry? h = some e := by
  rw [ensureCurrent, ← Option.isSome_iff_exists]
  by_cases hsome : (d.entry? h).isSome <;> simp [hsome]

theorem ensureCurrent_of_none (hnone : d.entry? h = none) :
    d.ensureCurrent h = .error (.notFound (.file h.uri.text)) := by
  simp [ensureCurrent, hnone]

theorem mem_files_removeEntry : e ∈ (d.removeEntry h).files ↔ e ∈ d.files ∧ ¬e.IsOf h := by
  rw [removeEntry, List.mem_filter, Bool.not_eq_true', ← Bool.not_eq_true, FileEntry.isOf_iff]

/-- Without a file of the handle there is nothing to remove. -/
theorem removeEntry_of_none (hnone : d.entry? h = none) : d.removeEntry h = d := by
  have hkept : d.files.filter (fun e => !(e.name == h.name && e.generation == h.generation)) =
      d.files := by
    refine List.filter_eq_self.mpr fun e he => ?_
    rw [Bool.not_eq_true', ← Bool.not_eq_true]
    exact List.find?_eq_none.mp hnone e he
  rw [removeEntry, hkept]

/-- The files of other generations stay. -/
theorem entry?_removeEntry_of_ne {f : FileHandle} (hne : f.generation ≠ h.generation) :
    entry? (d.removeEntry h) f = d.entry? f := by
  unfold entry? removeEntry
  rw [List.find?_filter]
  congr 1
  funext e
  rw [Bool.eq_iff_iff, decide_eq_true_iff, Bool.not_eq_true', ← Bool.not_eq_true,
    FileEntry.isOf_iff, FileEntry.isOf_iff]
  exact and_iff_right_of_imp fun hf hh => hne (hf.2.symm.trans hh.2)

theorem sorted_removeEntry (hd : Sorted d.files) : Sorted (d.removeEntry h).files :=
  hd.sublist List.filter_sublist

/-- The file of the handle has the new content, and all others are as they were. -/
theorem mem_files_writeEntry {content : String} :
    e ∈ (d.writeEntry h content).files ↔
      (e ∈ d.files ∧ ¬e.IsOf h) ∨
        ∃ f ∈ d.files, f.IsOf h ∧ e = { f with content := content } := by
  have hneg : ∀ {f : FileEntry}, ¬f.IsOf h →
      ¬(f.name == h.name && f.generation == h.generation) = true :=
    fun hof hp => hof (FileEntry.isOf_iff.mp hp)
  rw [writeEntry, List.mem_map]
  constructor
  · rintro ⟨f, hf, rfl⟩
    by_cases hof : f.IsOf h
    · exact Or.inr ⟨f, hf, hof, if_pos (FileEntry.isOf_iff.mpr hof)⟩
    · rw [if_neg (hneg hof)]
      exact Or.inl ⟨hf, hof⟩
  · rintro (⟨he, hof⟩ | ⟨f, hf, hof, rfl⟩)
    · exact ⟨e, he, if_neg (hneg hof)⟩
    · exact ⟨f, hf, if_pos (FileEntry.isOf_iff.mpr hof)⟩

theorem sorted_writeEntry (hd : Sorted d.files) (content : String) :
    Sorted (d.writeEntry h content).files := by
  refine List.pairwise_map.mpr (hd.imp fun {a b} hab => ?_)
  split <;> split <;> exact hab

end MemoryDirectory

end PlatformLink.Storage
