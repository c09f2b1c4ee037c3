import PlatformLink.Proofs.Web.Percent
import PlatformLink.Web.Url.Path

/-!
# Segments behind a front

Adding a text to a path never reaches further back than the last segment. A path that is a front
followed by at least one segment keeps its front whatever is added, and what happens behind the
front does not depend on it. This is why dot segments, although they are resolved, are harmless
behind a segment that was added before them.
-/

namespace PlatformLink.Web

/-- A text without a slash at its end. -/
def withoutSlash (s : String) : String :=
  String.ofList (if s.toList.getLast? = some '/' then s.toList.dropLast else s.toList)

def SlashFree (segment : String) : Prop :=
  '/' ∉ segment.toList

theorem slashFree_empty : SlashFree "" := by
  simp [SlashFree]

/-! ## Adding behind a front -/

theorem shortened_append (front : List String) {path : List String} (h : path ≠ []) :
    shortened (front ++ path) = front ++ shortened path := by
  obtain ⟨init, last, rfl⟩ := (List.eq_nil_or_concat path).resolve_left h
  rw [List.concat_eq_append, ← List.append_assoc, shortened, shortened]
  by_cases hd : namesDrive last <;> simp [hd]

theorem addLast_append (front : List String) {path : List String} (h : path ≠ [])
    (segment : String) : addLast (front ++ path) segment = front ++ addLast path segment := by
  unfold addLast
  rw [shortened_append front h]
  by_cases h2 : isTwoDots segment
  · simp [h2]
  · by_cases h1 : isDot segment <;> simp [h2, h1]

theorem addLast_ne_nil (path : List String) (segment : String) : addLast path segment ≠ [] := by
  unfold addLast
  split
  next => exact List.append_ne_nil_of_right_ne_nil _ (List.cons_ne_nil _ _)
  next =>
    split <;> exact List.append_ne_nil_of_right_ne_nil _ (List.cons_ne_nil _ _)

theorem openEnd_append {front path : List String} (hfront : front ≠ []) (hpath : path ≠ []) :
    openEnd (front ++ path) = front ++ path := by
  refine if_neg ?_
  intro h
  have hlength := congrArg List.length h
  have hf := List.length_pos_iff.mpr hfront
  have hp := List.length_pos_iff.mpr hpath
  simp only [List.length_append, List.length_cons, List.length_nil] at hlength
  omega

/-- What a text makes of the segments behind a front. -/
def pushBehind (part : UrlPart) (path : List String) (s : String) : List String :=
  if s = "." ∨ s = ".." then path else addLast path (segmentOf part s.toList)

theorem pushBehind_ne_nil (part : UrlPart) {path : List String} (h : path ≠ []) (s : String) :
    pushBehind part path s ≠ [] := by
  unfold pushBehind
  split
  next => exact h
  next => exact addLast_ne_nil path _

theorem pushSegment_behind (part : UrlPart) {front path : List String} (hfront : front ≠ [])
    (hpath : path ≠ []) (s : String) :
    pushSegment false part (front ++ path) s = front ++ pushBehind part path s := by
  rw [pushSegment_of_not_file, openEnd_append hfront hpath, addLast_append front hpath, pushBehind]
  split <;> rfl

theorem pushSegments_cons (file : Bool) (part : UrlPart) (path : List String) (s : String)
    (texts : List String) :
    pushSegments file part path (s :: texts) =
      pushSegments file part (pushSegment file part path s) texts := rfl

/-- Texts that are added behind a front stay behind it. -/
theorem pushSegments_behind (part : UrlPart) {front path : List String} (hfront : front ≠ [])
    (hpath : path ≠ []) (texts : List String) :
    pushSegments false part (front ++ path) texts =
      front ++ texts.foldl (pushBehind part) path := by
  induction texts generalizing path with
  | nil => rfl
  | cons s texts ih =>
    rw [pushSegments_cons, pushSegment_behind part hfront hpath,
      ih (pushBehind_ne_nil part hpath s), List.foldl_cons]

theorem foldl_pushBehind_ne_nil (part : UrlPart) {path : List String} (h : path ≠ [])
    (texts : List String) : texts.foldl (pushBehind part) path ≠ [] := by
  induction texts generalizing path with
  | nil => exact h
  | cons s texts ih => exact ih (pushBehind_ne_nil part h s)

/-! ## Names that stand for themselves -/

/-- A name of letters and digits. -/
def Plain (s : String) : Prop :=
  ∀ c ∈ s.toList, c.isAlphanum = true

instance (s : String) : Decidable (Plain s) :=
  List.decidableBAll _ _

theorem toNat_of_isAlphanum {c : Char} (h : c.isAlphanum = true) :
    0x30 ≤ c.toNat ∧ c.toNat ≤ 0x7A := by
  have hkinds : ((c.isUpper || c.isLower) || c.isDigit) = true := h
  rw [Bool.or_eq_true, Bool.or_eq_true] at hkinds
  rcases hkinds with (hupper | hlower) | hdigit
  · have hrange : 'A'.val ≤ c.val ∧ c.val ≤ 'Z'.val := of_decide_eq_true hupper
    rw [UInt32.le_iff_toNat_le, UInt32.le_iff_toNat_le] at hrange
    exact ⟨le_trans (by decide) hrange.1, le_trans hrange.2 (by decide)⟩
  · have hrange : (decide ('a'.val ≤ c.val) && decide (c.val ≤ 'z'.val)) = true := hlower
    rw [Bool.and_eq_true, decide_eq_true_eq, decide_eq_true_eq, UInt32.le_iff_toNat_le,
      UInt32.le_iff_toNat_le] at hrange
    exact ⟨le_trans (by decide) hrange.1, le_trans hrange.2 (by decide)⟩
  · have hrange := Char.isDigit_iff_toNat.mp hdigit
    exact ⟨le_trans (by decide) hrange.1, le_trans hrange.2 (by decide)⟩

theorem isDropped_of_isAlphanum {c : Char} (h : c.isAlphanum = true) : isDropped c = false := by
  have hcode := toNat_of_isAlphanum h
  simp only [isDropped, Bool.or_eq_false_iff, beq_eq_false_iff_ne]
  refine ⟨⟨?_, ?_⟩, ?_⟩ <;> rintro rfl <;> revert hcode <;> decide

theorem isEscaped_of_isAlphanum {c : Char} (h : c.isAlphanum = true) :
    UrlPart.specialSegment.isEscaped c = false := by
  have hcode := toNat_of_isAlphanum h
  have hcontrol : isControl c = false := by
    simp only [isControl, Bool.or_eq_false_iff, decide_eq_false_iff_not, beq_eq_false_iff_ne]
    omega
  have hlist : UrlPart.specialSegment.escapes.any Char.isAlphanum = false := by decide
  have hplain : c ∉ UrlPart.specialSegment.escapes := fun hc =>
    List.any_eq_false.mp hlist c hc h
  simp [UrlPart.isEscaped, hcontrol, hplain]

namespace Plain

variable {s : String}

theorem segmentOf_eq (h : Plain s) : segmentOf .specialSegment s.toList = s := by
  have hcounted : counted s.toList = s.toList := by
    refine List.filter_eq_self.mpr fun c hc => ?_
    simp [isDropped_of_isAlphanum (h c hc)]
  have hencode : UrlPart.specialSegment.encode s.toList = s.toList := by
    refine percentEncode_of_plain fun c hc => ⟨?_, isEscaped_of_isAlphanum (h c hc)⟩
    have hcode := toNat_of_isAlphanum (h c hc)
    omega
  rw [segmentOf, hcounted, hencode, String.ofList_toList]

theorem slashFree (h : Plain s) : SlashFree s := by
  intro hslash
  exact absurd (h '/' hslash) (by decide)

theorem not_isTwoDots (h : Plain s) : isTwoDots s = false := by
  have hall : ∀ d ∈ ["..", ".%2e", ".%2E", "%2e.", "%2E.", "%2e%2e", "%2e%2E", "%2E%2e", "%2E%2E"],
      ¬Plain d := by decide
  refine Bool.eq_false_iff.mpr fun hdots => ?_
  exact hall s (List.contains_iff_mem.mp hdots) h

theorem not_isDot (h : Plain s) : isDot s = false := by
  have hall : ∀ d ∈ [".", "%2e", "%2E"], ¬Plain d := by decide
  refine Bool.eq_false_iff.mpr fun hdots => ?_
  exact hall s (List.contains_iff_mem.mp hdots) h

theorem not_dots (h : Plain s) : ¬(s = "." ∨ s = "..") := by
  rintro (rfl | rfl)
  · exact absurd h (by decide)
  · exact absurd h (by decide)

theorem pushSegment_eq (h : Plain s) (path : List String) :
    pushSegment false .specialSegment path s = openEnd path ++ [s] := by
  rw [pushSegment_of_not_file, if_neg h.not_dots, h.segmentOf_eq, addLast, h.not_isTwoDots,
    h.not_isDot]
  rfl

end Plain

/-! ## Segments without slashes -/

/-- What is escaped does not stand in a segment, unless it is written for escaping. -/
theorem not_mem_segmentOf {part : UrlPart} {c : Char} (h : part.isEscaped c = true)
    (hpercent : c ≠ '%') (hdigit : c ∉ upperHexDigits) (cs : List Char) :
    c ∉ (segmentOf part cs).toList := by
  rw [segmentOf, String.toList_ofList]
  intro hmem
  rcases mem_percentEncode hmem with ⟨-, -, hplain⟩ | heq | hmem
  · rw [h] at hplain
    exact absurd hplain (by decide)
  · exact hpercent heq
  · exact hdigit hmem

theorem slashFree_segmentOf {part : UrlPart} (h : part.isEscaped '/' = true) (cs : List Char) :
    SlashFree (segmentOf part cs) :=
  not_mem_segmentOf h (by decide) (by decide) cs

theorem shortened_subset (path : List String) : shortened path ⊆ path := by
  unfold shortened
  split
  next last h =>
    split
    next => exact List.Subset.refl path
    next => exact List.dropLast_subset path
  next => exact List.Subset.refl path

theorem mem_addInner {path : List String} {segment x : String} (h : x ∈ addInner path segment) :
    x ∈ path ∨ x = segment := by
  unfold addInner at h
  split at h
  next => exact Or.inl (shortened_subset path h)
  next =>
    split at h
    next => exact Or.inl h
    next => simpa using h

theorem mem_addLast {path : List String} {segment x : String} (h : x ∈ addLast path segment) :
    x ∈ path ∨ x = segment ∨ x = "" := by
  unfold addLast at h
  split at h
  next =>
    rcases List.mem_append.mp h with h | h
    · exact Or.inl (shortened_subset path h)
    · exact Or.inr (Or.inr (List.mem_singleton.mp h))
  next =>
    split at h
    next =>
      rcases List.mem_append.mp h with h | h
      · exact Or.inl h
      · exact Or.inr (Or.inr (List.mem_singleton.mp h))
    next =>
      rcases List.mem_append.mp h with h | h
      · exact Or.inl h
      · exact Or.inr (Or.inl (List.mem_singleton.mp h))

theorem slashFree_of_mem_pushBehind {part : UrlPart} (hpart : part.isEscaped '/' = true)
    {path : List String} (h : ∀ x ∈ path, SlashFree x) (s : String) :
    ∀ x ∈ pushBehind part path s, SlashFree x := by
  intro x hx
  unfold pushBehind at hx
  split at hx
  next => exact h x hx
  next =>
    rcases mem_addLast hx with hx | rfl | rfl
    · exact h x hx
    · exact slashFree_segmentOf hpart s.toList
    · exact slashFree_empty

theorem slashFree_of_mem_foldl {part : UrlPart} (hpart : part.isEscaped '/' = true)
    {path : List String} (h : ∀ x ∈ path, SlashFree x) (texts : List String) :
    ∀ x ∈ texts.foldl (pushBehind part) path, SlashFree x := by
  induction texts generalizing path with
  | nil => exact h
  | cons s texts ih => exact ih (slashFree_of_mem_pushBehind hpart h s)

/-! ## The text of a path -/

theorem toList_segmentsText (ss : List String) :
    (segmentsText ss).toList = ss.flatMap fun s => '/' :: s.toList := by
  induction ss with
  | nil => simp [segmentsText]
  | cons s ss ih =>
    have hcons : segmentsText (s :: ss) = segmentsText [s] ++ segmentsText ss :=
      segmentsText_append [s] ss
    rw [hcons, String.toList_append, ih]
    simp [segmentsText]

theorem toList_segmentsText_concat (init : List String) (last : String) :
    (segmentsText (init ++ [last])).toList =
      (segmentsText init).toList ++ '/' :: last.toList := by
  simp [toList_segmentsText]

theorem segmentsText_singleton (s : String) : segmentsText [s] = "/" ++ s := by
  simp [segmentsText]

theorem segmentsText_of_ne_nil {ss : List String} (h : ss ≠ []) :
    ∃ rest, segmentsText ss = "/" ++ rest := by
  obtain ⟨s, rest, rfl⟩ := List.exists_cons_of_ne_nil h
  refine ⟨s ++ segmentsText rest, ?_⟩
  rw [← List.singleton_append, segmentsText_append, segmentsText_singleton, String.append_assoc]

/-- The segments before those that are added. -/
def front (ss : List String) : List String :=
  openEnd (withoutEmptyEnd ss)

theorem withoutEmptyEnd_concat_of_ne (init : List String) {last : String} (h : last ≠ "") :
    withoutEmptyEnd (init ++ [last]) = init ++ [last] := by
  simp [withoutEmptyEnd, h]

theorem withoutEmptyEnd_concat_empty {init : List String} (h : init ≠ []) :
    withoutEmptyEnd (init ++ [""]) = init := by
  have hlength := List.length_pos_iff.mpr h
  simp [withoutEmptyEnd, hlength]

theorem concat_ne_empty_segment (init : List String) {last : String} (h : last ≠ "") :
    init ++ [last] ≠ [""] := by
  intro heq
  have hlast := congrArg List.getLast? heq
  simp [h] at hlast

theorem openEnd_concat_of_ne (init : List String) {last : String} (h : last ≠ "") :
    openEnd (init ++ [last]) = init ++ [last] :=
  if_neg (concat_ne_empty_segment init h)

theorem front_concat_of_ne (init : List String) {last : String} (h : last ≠ "") :
    front (init ++ [last]) = init ++ [last] := by
  rw [front, withoutEmptyEnd_concat_of_ne init h, openEnd_concat_of_ne init h]

theorem front_concat_empty {init : List String} (h : init ≠ [""]) :
    front (init ++ [""]) = init := by
  by_cases hnil : init = []
  · subst hnil
    rfl
  · rw [front, withoutEmptyEnd_concat_empty hnil, openEnd, if_neg h]

theorem mem_front {ss : List String} {s : String} (hs : s ∈ ss) (hne : s ≠ "") : s ∈ front ss := by
  rcases List.eq_nil_or_concat ss with rfl | ⟨init, last, rfl⟩
  · cases hs
  · rw [List.concat_eq_append] at *
    by_cases hempty : last = ""
    · subst hempty
      have hinit : s ∈ init := by
        rcases List.mem_append.mp hs with hs | hs
        · exact hs
        · exact absurd (List.mem_singleton.mp hs) hne
      have hopen : init ≠ [""] := by
        rintro rfl
        exact hne (List.mem_singleton.mp hinit)
      rw [front_concat_empty hopen]
      exact hinit
    · rw [front_concat_of_ne init hempty]
      exact hs

/-- Texts behind a name of letters and digits lead to a path under that of the root. -/
theorem pushSegments_front {ss : List String} (hfront : front ss ≠ []) {name : String}
    (hname : Plain name) (texts : List String) :
    pushSegments false .specialSegment (withoutEmptyEnd ss) (name :: texts) =
      front ss ++ texts.foldl (pushBehind .specialSegment) [name] := by
  rw [pushSegments_cons, hname.pushSegment_eq, ← front]
  exact pushSegments_behind .specialSegment hfront (List.cons_ne_nil _ _) texts

theorem withoutSlash_segmentsText_empty (init : List String) :
    withoutSlash (segmentsText (init ++ [""])) = segmentsText init := by
  rw [withoutSlash, toList_segmentsText_concat]
  simp [String.ofList_toList]

theorem withoutSlash_segmentsText_of_ne (init : List String) {last : String} (hne : last ≠ "")
    (h : SlashFree last) :
    withoutSlash (segmentsText (init ++ [last])) = segmentsText (init ++ [last]) := by
  have hnil : last.toList ≠ [] := by
    intro hnil
    exact hne (String.toList_eq_nil_iff.mp hnil)
  have hlast : (segmentsText (init ++ [last])).toList.getLast? ≠ some '/' := by
    obtain ⟨before, c, hc⟩ := (List.eq_nil_or_concat last.toList).resolve_left hnil
    rw [toList_segmentsText_concat, hc, List.concat_eq_append, ← List.cons_append,
      ← List.append_assoc, List.getLast?_concat]
    intro hslash
    refine h ?_
    rw [hc, Option.some.inj hslash]
    simp
  rw [withoutSlash, if_neg hlast, String.ofList_toList]

/-- Except for two slashes alone, taking a slash from the end of a path leaves the text of its
front. -/
theorem withoutSlash_segmentsText {ss : List String} (hlast : ∀ s ∈ ss.getLast?, SlashFree s)
    (hne : ss ≠ ["", ""]) : withoutSlash (segmentsText ss) = segmentsText (front ss) := by
  rcases List.eq_nil_or_concat ss with rfl | ⟨init, last, rfl⟩
  · simp [withoutSlash, segmentsText, front, withoutEmptyEnd, openEnd]
  · rw [List.concat_eq_append] at *
    by_cases hempty : last = ""
    · subst hempty
      have hinit : init ≠ [""] := by
        rintro rfl
        exact hne rfl
      rw [withoutSlash_segmentsText_empty, front_concat_empty hinit]
    · rw [withoutSlash_segmentsText_of_ne init hempty (hlast last (by simp)),
        front_concat_of_ne init hempty]

end PlatformLink.Web
