import PlatformLink.Proofs.Web.Segment

/-!
# Kept texts in any URL

Under every scheme a text that is kept becomes one segment of its own at the end of the path, and
the segment decodes to the text. Only the first segment of the path of a file may be taken for a
drive. So the texts behind a name that is no drive can be read off the URL as it is written.
-/

namespace PlatformLink.Web

variable {part : UrlPart} {file : Bool} {path : List String}

/-! ## Adding them -/

theorem IsKept.pushSegment_eq {s : String} (h : IsKept s) (hpart : part.isEscaped '%' = true)
    (hdrive : openEnd path = [] → leadingDrive? part s.toList = none) :
    pushSegment file part path s = openEnd path ++ [segmentOf part s.toList] := by
  have hnone : (if file && (openEnd path).isEmpty then leadingDrive? part s.toList else none) =
      none := by
    split
    next hfirst =>
      rw [Bool.and_eq_true, List.isEmpty_iff] at hfirst
      exact hdrive hfirst.2
    next => rfl
  rw [pushSegment, if_neg (not_or.mpr ⟨h.ne_dot, h.ne_twoDots⟩)]
  simp only [hnone]
  exact h.addLast_eq hpart (openEnd path)

/-- Behind a segment that is not empty nothing is a drive. -/
theorem openEnd_eq_self {name : String} (h : name ∈ path) (hname : name ≠ "") :
    openEnd path = path := by
  refine if_neg ?_
  rintro rfl
  exact hname (List.mem_singleton.mp h)

theorem pushSegments_of_kept {texts : List String} (h : ∀ s ∈ texts, IsKept s)
    (hpart : part.isEscaped '%' = true) {name : String} (hmem : name ∈ path) (hname : name ≠ "") :
    pushSegments file part path texts =
      path ++ texts.map fun s => segmentOf part s.toList := by
  induction texts generalizing path with
  | nil => simp [pushSegments]
  | cons s texts ih =>
    -- The name stays in the path, so no later text can come first and be taken for a drive.
    have hopen := openEnd_eq_self hmem hname
    have hfirst : pushSegment file part path s = path ++ [segmentOf part s.toList] := by
      rw [(h s List.mem_cons_self).pushSegment_eq hpart, hopen]
      intro hnil
      rw [← hopen, hnil] at hmem
      cases hmem
    rw [pushSegments_cons, hfirst, ih (fun t ht => h t (List.mem_cons_of_mem s ht))
      (List.mem_append_left _ hmem), List.map_cons, List.append_assoc, List.singleton_append]

/-! ## Reading them off -/

theorem segments_inj_of_kept {texts others : List String} (h : ∀ s ∈ texts, IsKept s)
    (h' : ∀ s ∈ others, IsKept s) (hpart : part.isEscaped '%' = true)
    (heq : (texts.map fun s => segmentOf part s.toList) =
      others.map fun s => segmentOf part s.toList) : texts = others := by
  induction texts generalizing others with
  | nil => exact (List.map_eq_nil_iff.mp heq.symm).symm
  | cons s texts ih =>
    cases others with
    | nil => cases heq
    | cons t others =>
      obtain ⟨hfirst, hrest⟩ := List.cons.inj heq
      rw [(h s List.mem_cons_self).eq_of_segmentOf (h' t List.mem_cons_self) hpart hfirst,
        ih (fun x hx => h x (List.mem_cons_of_mem s hx))
          (fun x hx => h' x (List.mem_cons_of_mem t hx)) hrest]

namespace Url

/-- Every part in which a segment stands escapes percent signs and slashes. -/
theorem isEscaped_segmentPart (u : Url) :
    u.segmentPart.isEscaped '%' = true ∧ u.segmentPart.isEscaped '/' = true := by
  unfold segmentPart
  split <;> decide

variable {u : Url} {ss : List String} {name : String}

/-- A name that is no drive, with kept texts behind it, is added segment by segment. -/
theorem extendPath?_of_kept (hpath : u.path = .segments ss) (hname : IsKept name) (hne : name ≠ "")
    (hdrive : leadingDrive? u.segmentPart name.toList = none) {texts : List String}
    (htexts : ∀ s ∈ texts, IsKept s) :
    u.extendPath? (name :: texts) = some { u with
      path := .segments ((front ss ++ [segmentOf u.segmentPart name.toList]) ++
        texts.map fun s => segmentOf u.segmentPart s.toList) } := by
  have hpart := u.isEscaped_segmentPart.1
  have hdecoded := hname.segmentText? hpart
  have hsegment : segmentOf u.segmentPart name.toList ≠ "" := by
    intro hempty
    rw [hempty] at hdecoded
    exact hne (Option.some.inj hdecoded).symm
  have hfirst : pushSegment (u.scheme == "file") u.segmentPart (withoutEmptyEnd ss) name =
      front ss ++ [segmentOf u.segmentPart name.toList] :=
    hname.pushSegment_eq hpart fun _ => hdrive
  simp only [extendPath?, hpath, pushSegments_cons, hfirst]
  rw [pushSegments_of_kept htexts hpart (List.mem_append_right _ (List.mem_singleton_self _))
    hsegment]

/-- Kept texts behind one name are told apart by the URLs as they are written. -/
theorem texts_eq_of_text_eq (hpath : u.path = .segments ss) (hname : IsKept name) (hne : name ≠ "")
    (hdrive : leadingDrive? u.segmentPart name.toList = none) {texts others : List String}
    (htexts : ∀ s ∈ texts, IsKept s) (hothers : ∀ s ∈ others, IsKept s) {v w : Url}
    (hv : u.extendPath? (name :: texts) = some v) (hw : u.extendPath? (name :: others) = some w)
    (h : v.text = w.text) : texts = others := by
  have hpart := u.isEscaped_segmentPart
  rw [extendPath?_of_kept hpath hname hne hdrive htexts] at hv
  rw [extendPath?_of_kept hpath hname hne hdrive hothers] at hw
  rw [← Option.some.inj hv, ← Option.some.inj hw] at h
  have htext := pathText_eq_of_text_eq h
  simp only [pathText, String.append_right_inj, segmentsText_append] at htext
  have hfree (list : List String) :
      ∀ segment ∈ list.map fun s => segmentOf u.segmentPart s.toList, SlashFree segment := by
    intro segment hsegment
    obtain ⟨s, -, rfl⟩ := List.mem_map.mp hsegment
    exact slashFree_segmentOf hpart.2 s.toList
  exact segments_inj_of_kept htexts hothers hpart.1
    (segmentsText_inj (hfree texts) (hfree others) htext)

end Url

end PlatformLink.Web
