import Mathlib.Data.List.Induction
import Mathlib.Data.List.TakeWhile
import PlatformLink.Proofs.Web.Path
import PlatformLink.Text.Blank

/-!
# A text as one segment

What becomes of a text that is added to a path. Its segment decodes to the characters of the text
that count, so the segment is a dot segment just where those characters are one or two dots. A text
is kept when it is neither passed over nor resolved and loses no character; then its segment decodes
to the text itself.
-/

namespace PlatformLink.Web

/-- The text that a segment stands for, if its octets are UTF-8. -/
def segmentText? (segment : String) : Option String :=
  Text.decode? (percentDecode segment.toList)

section

variable {part : UrlPart} {cs : List Char}

theorem segmentText?_segmentOf (hpart : part.isEscaped '%' = true) (cs : List Char) :
    segmentText? (segmentOf part cs) = some (String.ofList (counted cs)) := by
  rw [segmentText?, segmentOf, String.toList_ofList, UrlPart.encode,
    percentDecode_percentEncode hpart, Text.decode?_encodeChars]

/-- A segment fixes the characters that count. -/
theorem counted_eq_of_segmentOf (hpart : part.isEscaped '%' = true) {ds : List Char}
    (h : segmentText? (segmentOf part cs) = some (String.ofList ds)) : counted cs = ds := by
  rw [segmentText?_segmentOf hpart] at h
  exact String.ofList_injective (Option.some.inj h)

theorem counted_eq_of_isDot (hpart : part.isEscaped '%' = true)
    (h : isDot (segmentOf part cs) = true) : counted cs = ['.'] := by
  have hall : ∀ d ∈ [".", "%2e", "%2E"], segmentText? d = some "." := by decide
  exact counted_eq_of_segmentOf hpart (hall _ (List.contains_iff_mem.mp h))

theorem counted_eq_of_isTwoDots (hpart : part.isEscaped '%' = true)
    (h : isTwoDots (segmentOf part cs) = true) : counted cs = ['.', '.'] := by
  have hall : ∀ d ∈ ["..", ".%2e", ".%2E", "%2e.", "%2E.", "%2e%2e", "%2e%2E", "%2E%2e",
      "%2E%2E"], segmentText? d = some ".." := by decide
  exact counted_eq_of_segmentOf hpart (hall _ (List.contains_iff_mem.mp h))

end

theorem isDot_segmentOf_iff (cs : List Char) :
    isDot (segmentOf .specialSegment cs) = true ↔ counted cs = ['.'] := by
  constructor
  · exact counted_eq_of_isDot (by decide)
  · intro h
    rw [segmentOf, h]
    decide

theorem isTwoDots_segmentOf_iff (cs : List Char) :
    isTwoDots (segmentOf .specialSegment cs) = true ↔ counted cs = ['.', '.'] := by
  constructor
  · exact counted_eq_of_isTwoDots (by decide)
  · intro h
    rw [segmentOf, h]
    decide

/-! ## Texts that are kept -/

/-- A text of which a path keeps all. -/
structure IsKept (s : String) : Prop where
  ne_dot : s ≠ "."
  ne_twoDots : s ≠ ".."
  undropped : ∀ c ∈ s.toList, isDropped c = false

instance (s : String) : Decidable (IsKept s) :=
  decidable_of_iff (s ≠ "." ∧ s ≠ ".." ∧ s.toList.any isDropped = false) <| by
    simp only [List.any_eq_false, Bool.not_eq_true]
    exact ⟨fun ⟨h1, h2, h3⟩ => ⟨h1, h2, h3⟩, fun ⟨h1, h2, h3⟩ => ⟨h1, h2, h3⟩⟩

theorem counted_eq_self_iff (cs : List Char) :
    counted cs = cs ↔ ∀ c ∈ cs, isDropped c = false := by
  rw [counted, List.filter_eq_self]
  simp

namespace IsKept

variable {s t : String} {part : UrlPart}

theorem segmentText? (h : IsKept s) (hpart : part.isEscaped '%' = true) :
    segmentText? (segmentOf part s.toList) = some s := by
  rw [segmentText?_segmentOf hpart, (counted_eq_self_iff s.toList).mpr h.undropped,
    String.ofList_toList]

theorem eq_of_segmentOf (hs : IsKept s) (ht : IsKept t) (hpart : part.isEscaped '%' = true)
    (h : segmentOf part s.toList = segmentOf part t.toList) : s = t := by
  have hdecoded := hs.segmentText? hpart
  rw [h, ht.segmentText? hpart] at hdecoded
  exact (Option.some.inj hdecoded).symm

theorem counted_ne (h : IsKept s) (hst : s ≠ t) : counted s.toList ≠ t.toList := by
  rw [(counted_eq_self_iff s.toList).mpr h.undropped]
  exact fun heq => hst (String.toList_injective heq)

theorem addLast_eq (h : IsKept s) (hpart : part.isEscaped '%' = true) (path : List String) :
    addLast path (segmentOf part s.toList) = path ++ [segmentOf part s.toList] := by
  rw [addLast, if_neg fun hdots => h.counted_ne h.ne_twoDots (counted_eq_of_isTwoDots hpart hdots),
    if_neg fun hdot => h.counted_ne h.ne_dot (counted_eq_of_isDot hpart hdot)]

theorem pushBehind_eq (h : IsKept s) (hpart : part.isEscaped '%' = true) (path : List String) :
    pushBehind part path s = path ++ [segmentOf part s.toList] := by
  rw [pushBehind, if_neg (not_or.mpr ⟨h.ne_dot, h.ne_twoDots⟩), h.addLast_eq hpart]

end IsKept

theorem Plain.isKept {s : String} (h : Plain s) : IsKept s :=
  ⟨(not_or.mp h.not_dots).1, (not_or.mp h.not_dots).2,
    fun c hc => isDropped_of_isAlphanum (h c hc)⟩

/-- A name of letters and digits stands for itself. -/
theorem Plain.segmentText? {s : String} (h : Plain s) : segmentText? s = some s := by
  have hkept : PlatformLink.Web.segmentText? (segmentOf .specialSegment s.toList) = some s :=
    h.isKept.segmentText? (by decide)
  rwa [h.segmentOf_eq] at hkept

/-- What a text can make of the segments behind a front. -/
inductive Pushed (path : List String) (s : String) : List String → Prop where
  | skipped (h : s = "." ∨ s = "..") : Pushed path s path
  | up (h : counted s.toList = ['.', '.']) : Pushed path s (shortened path ++ [""])
  | here (h : counted s.toList = ['.']) : Pushed path s (path ++ [""])
  | added (h : ¬(s = "." ∨ s = "..")) (h1 : counted s.toList ≠ ['.'])
      (h2 : counted s.toList ≠ ['.', '.']) :
      Pushed path s (path ++ [segmentOf .specialSegment s.toList])

theorem pushed_pushBehind (path : List String) (s : String) :
    Pushed path s (pushBehind .specialSegment path s) := by
  unfold pushBehind
  split
  next h => exact .skipped h
  next h =>
    unfold addLast
    split
    next h2 => exact .up ((isTwoDots_segmentOf_iff s.toList).mp h2)
    next h2 =>
      split
      next h1 => exact .here ((isDot_segmentOf_iff s.toList).mp h1)
      next h1 =>
        refine .added h ?_ ?_
        · exact fun heq => h1 ((isDot_segmentOf_iff s.toList).mpr heq)
        · exact fun heq => h2 ((isTwoDots_segmentOf_iff s.toList).mpr heq)

theorem length_shortened_le (path : List String) : (shortened path).length ≤ path.length := by
  unfold shortened
  split
  next =>
    split
    next => exact le_rfl
    next =>
      rw [List.length_dropLast]
      exact Nat.sub_le _ 1
  next => exact le_rfl

theorem Pushed.length_le {path made : List String} {s : String} (h : Pushed path s made) :
    made.length ≤ path.length + 1 := by
  cases h with
  | skipped => exact Nat.le_succ _
  | up =>
    rw [List.length_append]
    exact Nat.succ_le_succ (length_shortened_le path)
  | here => rw [List.length_append, List.length_singleton]
  | added => rw [List.length_append, List.length_singleton]

theorem segmentText?_empty_ne {s : String} {ds : List Char} (h : counted s.toList = ds)
    (hne : ds ≠ []) : segmentText? "" ≠ some s := by
  have hempty : segmentText? "" = some "" := by decide
  rw [hempty]
  intro heq
  rw [← Option.some.inj heq] at h
  exact hne h.symm

/-- Where a path ends with a segment that stands for the text, the text was passed over behind it or
was kept. -/
theorem Pushed.kept {path init : List String} {s x : String} (h : Pushed path s (init ++ [x]))
    (hx : segmentText? x = some s) : path = init ++ [x] ∨ path = init ∧ IsKept s := by
  generalize hmade : init ++ [x] = made at h
  cases h with
  | skipped => exact Or.inl rfl
  | up hdots =>
    rw [← List.concat_eq_append, ← List.concat_eq_append] at hmade
    rw [(List.concat_inj.mp hmade).2] at hx
    exact absurd hx (segmentText?_empty_ne hdots (by decide))
  | here hdot =>
    rw [← List.concat_eq_append, ← List.concat_eq_append] at hmade
    rw [(List.concat_inj.mp hmade).2] at hx
    exact absurd hx (segmentText?_empty_ne hdot (by decide))
  | added hdots =>
    rw [← List.concat_eq_append, ← List.concat_eq_append] at hmade
    obtain ⟨hdot, htwo⟩ := not_or.mp hdots
    rw [(List.concat_inj.mp hmade).2, segmentText?_segmentOf (by decide),
      Option.some.injEq, ← String.toList_inj, String.toList_ofList] at hx
    exact Or.inr ⟨(List.concat_inj.mp hmade).1.symm, hdot, htwo,
      (counted_eq_self_iff s.toList).mp hx⟩

/-- Where there were segments and one is left that is not empty, the text was passed over. -/
theorem Pushed.skipped_of_singleton {path : List String} {s x : String} (h : Pushed path s [x])
    (hpath : path ≠ []) (hx : x ≠ "") : path = [x] ∧ (s = "." ∨ s = "..") := by
  have hlast : ∀ {init : List String} {y : String}, [x] = init ++ [y] → init = [] ∧ y = x := by
    intro init y heq
    have hconcat : [].concat x = init.concat y := by
      rw [List.concat_eq_append, List.concat_eq_append]
      exact heq
    exact ⟨(List.concat_inj.mp hconcat).1.symm, (List.concat_inj.mp hconcat).2.symm⟩
  generalize hmade : [x] = made at h
  cases h with
  | skipped hdots => exact ⟨rfl, hdots⟩
  | up => exact absurd (hlast hmade).2.symm hx
  | here => exact absurd (hlast hmade).2.symm hx
  | added => exact absurd (hlast hmade).1 hpath

/-- Texts that are kept become one segment each. -/
theorem foldl_of_kept {texts : List String} (h : ∀ s ∈ texts, IsKept s) (path : List String) :
    texts.foldl (pushBehind .specialSegment) path =
      path ++ texts.map fun s => segmentOf .specialSegment s.toList := by
  induction texts generalizing path with
  | nil => simp
  | cons s texts ih =>
    rw [List.foldl_cons, (h s List.mem_cons_self).pushBehind_eq (by decide) path,
      ih fun t ht => h t (List.mem_cons_of_mem s ht), List.map_cons, List.append_assoc,
      List.singleton_append]

theorem length_foldl_le (texts path : List String) :
    (texts.foldl (pushBehind .specialSegment) path).length ≤ path.length + texts.length := by
  induction texts generalizing path with
  | nil => exact le_rfl
  | cons s texts ih =>
    have hfirst := (pushed_pushBehind path s).length_le
    have hrest := ih (pushBehind .specialSegment path s)
    rw [List.foldl_cons, List.length_cons]
    omega

/-- Where texts become segments that stand for them, one for each, they are kept. A text that was
not could only be passed over, and then there would be a segment too few. -/
theorem kept_of_foldl {path texts segments : List String}
    (h : texts.foldl (pushBehind .specialSegment) path = path ++ segments)
    (hdecoded : segments.map segmentText? = texts.map some) : ∀ s ∈ texts, IsKept s := by
  induction texts using List.reverseRecOn generalizing segments with
  | nil => nofun
  | append_singleton init s ih =>
    obtain ⟨before, x, rfl⟩ : ∃ before x, segments = before ++ [x] := by
      rcases List.eq_nil_or_concat segments with rfl | ⟨before, x, rfl⟩
      · simp at hdecoded
      · exact ⟨before, x, List.concat_eq_append⟩
    rw [List.map_append, List.map_append] at hdecoded
    obtain ⟨hinit, hlast⟩ := List.append_inj' hdecoded rfl
    have hx : segmentText? x = some s := List.singleton_inj.mp hlast
    rw [List.foldl_append, List.foldl_cons, List.foldl_nil, ← List.append_assoc] at h
    have hpushed := pushed_pushBehind (init.foldl (pushBehind .specialSegment) path) s
    rw [h] at hpushed
    rcases hpushed.kept hx with hskipped | ⟨hbefore, hs⟩
    · have hgrown := length_foldl_le init path
      have hlength := congrArg List.length hinit
      rw [hskipped] at hgrown
      simp only [List.length_append, List.length_map, List.length_singleton] at hgrown hlength
      omega
    · intro t ht
      rcases List.mem_append.mp ht with ht | ht
      · exact ih hbefore hinit t ht
      · rw [List.mem_singleton.mp ht]
        exact hs

/-- Another text that makes the same of every path. -/
def twin (s : String) : String :=
  if s = "." then ".." else if s = ".." then "." else s ++ "\t"

theorem twin_ne (s : String) : twin s ≠ s := by
  unfold twin
  split
  next h => simp [h]
  next =>
    split
    next h => simp [h]
    next =>
      intro h
      have hlength := congrArg String.length h
      rw [String.length_append] at hlength
      exact absurd hlength (by simp)

theorem pushBehind_twin (part : UrlPart) (path : List String) (s : String) :
    pushBehind part path (twin s) = pushBehind part path s := by
  unfold twin
  split
  next h => simp [h, pushBehind]
  next hdot =>
    split
    next h => simp [h, pushBehind]
    next htwo =>
      have hne : ∀ {t : String}, '\t' ∉ t.toList → s ++ "\t" ≠ t := by
        rintro t ht rfl
        exact ht (by simp)
      have hcounted : counted (s ++ "\t").toList = counted s.toList := by
        simp [counted, isDropped]
      have hdots : ¬(s ++ "\t" = "." ∨ s ++ "\t" = "..") :=
        not_or.mpr ⟨hne (by decide), hne (by decide)⟩
      rw [pushBehind, pushBehind, if_neg hdots, if_neg (not_or.mpr ⟨hdot, htwo⟩), segmentOf,
        segmentOf, hcounted]

theorem isBlank_twin (s : String) : Text.isBlank (twin s) = Text.isBlank s := by
  have htab : Text.isBlank "\t" = true := by decide
  unfold twin
  split
  next h => rw [h]; decide
  next =>
    split
    next h => rw [h]; decide
    next =>
      rw [Text.isBlank, Text.isBlank, String.toList_append, List.all_append, ← Text.isBlank,
        ← Text.isBlank, htab, Bool.and_true]

/-! ## Paths as texts -/

theorem takeWhile_segment {s : String} (hs : SlashFree s) (ss : List String) :
    (s.toList ++ (segmentsText ss).toList).takeWhile (· != '/') = s.toList := by
  have hplain : ∀ c ∈ s.toList, (c != '/') = true := by
    intro c hc
    rw [bne_iff_ne]
    rintro rfl
    exact hs hc
  rw [List.takeWhile_append_of_pos hplain, toList_segmentsText]
  cases ss <;> simp

/-- Segments without slashes can be read off the text of their path. -/
theorem segmentsText_inj {as bs : List String} (ha : ∀ s ∈ as, SlashFree s)
    (hb : ∀ s ∈ bs, SlashFree s) (h : segmentsText as = segmentsText bs) : as = bs := by
  induction as generalizing bs with
  | nil =>
    cases bs with
    | nil => rfl
    | cons b bs =>
      have hchars := congrArg String.toList h
      simp [toList_segmentsText] at hchars
  | cons a as ih =>
    cases bs with
    | nil =>
      have hchars := congrArg String.toList h
      simp [toList_segmentsText] at hchars
    | cons b bs =>
      have hchars :
          a.toList ++ (segmentsText as).toList = b.toList ++ (segmentsText bs).toList := by
        have hall := congrArg String.toList h
        rw [toList_segmentsText, toList_segmentsText, List.flatMap_cons, List.flatMap_cons,
          ← toList_segmentsText, ← toList_segmentsText] at hall
        exact (List.cons.inj hall).2
      have hfirst : a.toList = b.toList := by
        rw [← takeWhile_segment (ha a List.mem_cons_self) as, hchars,
          takeWhile_segment (hb b List.mem_cons_self) bs]
      rw [hfirst] at hchars
      have hrest := String.toList_injective (List.append_cancel_left hchars)
      rw [String.toList_injective hfirst,
        ih (fun s hs => ha s (List.mem_cons_of_mem a hs))
          (fun s hs => hb s (List.mem_cons_of_mem b hs)) hrest]

/-- URLs that differ in their paths only differ there as texts. -/
theorem pathText_eq_of_text_eq {u : Url} {p q : UrlPath}
    (h : { u with path := p : Url }.text = { u with path := q : Url }.text) :
    { u with path := p : Url }.pathText = { u with path := q : Url }.pathText := by
  rw [Url.text, Url.text] at h
  exact (String.append_right_inj _).mp
    ((String.append_left_inj _).mp ((String.append_left_inj _).mp h))

end PlatformLink.Web
