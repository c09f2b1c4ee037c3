import PlatformLink.Proofs.Outcome
import PlatformLink.Proofs.Text.Trimming
import PlatformLink.Proofs.Web.WebUrl
import PlatformLink.Storage.Directory

/-!
# Names and addresses

The characters of an entity name are letters, digits, hyphens, underscores and points. None of them
means anything to a reader of URLs, and a name does not consist of points alone. So a name is read
as it is: as the host of a scheme that gives hosts no meaning of their own, and as the last segment
of a path where it stands as a reference.
-/

namespace PlatformLink

open Web

/-! ## Accepted names -/

/-- A name of the characters of entity names that is more than points. -/
structure IsName (s : String) : Prop where
  chars : ∀ c ∈ s.toList, Validation.isEntityNameChar c = true
  not_dots : ∃ c ∈ s.toList, c ≠ '.'

theorem Validation.entityName_eq_ok {subject s t : String}
    (h : entityName subject s = .ok t) : t = s ∧ IsName s := by
  obtain ⟨s₁, h₁, h⟩ := bind_eq_ok_iff.mp h
  obtain ⟨s₂, h₂, h⟩ := bind_eq_ok_iff.mp h
  obtain ⟨s₃, h₃, h⟩ := bind_eq_ok_iff.mp h
  obtain ⟨-, rfl⟩ := (ensure_eq_ok_iff _ _ _ _).mp h₁
  obtain ⟨-, rfl⟩ := (ensure_eq_ok_iff _ _ _ _).mp h₂
  obtain ⟨hdots, rfl⟩ := (ensure_eq_ok_iff _ _ _ _).mp h₃
  obtain ⟨hall, rfl⟩ := (ensure_eq_ok_iff _ _ _ _).mp h
  exact ⟨rfl, List.all_eq_true.mp hall, by simpa using hdots⟩

theorem toNat_of_isEntityNameChar {c : Char} (h : Validation.isEntityNameChar c = true) :
    0x20 < c.toNat ∧ c.toNat < 0x7F := by
  simp only [Validation.isEntityNameChar, Bool.or_eq_true, beq_iff_eq] at h
  rcases h with ((h | rfl) | rfl) | rfl
  · have hcode := toNat_of_isAlphanum h
    omega
  all_goals decide

theorem isControlOrSpace_of_isEntityNameChar {c : Char}
    (h : Validation.isEntityNameChar c = true) : isControlOrSpace c = false := by
  rw [isControlOrSpace, decide_eq_false_iff_not, Nat.not_le]
  exact (toNat_of_isEntityNameChar h).1

theorem isForbiddenInHost_of_isEntityNameChar {c : Char}
    (h : Validation.isEntityNameChar c = true) : isForbiddenInHost c = false := by
  have hlisted : " #/:<>?@[\\]^|".toList.any Validation.isEntityNameChar = false := by decide
  refine Bool.eq_false_iff.mpr fun hforbidden => ?_
  simp only [isForbiddenInHost, Bool.or_eq_true, beq_iff_eq] at hforbidden
  rcases hforbidden with (((rfl | rfl) | rfl) | rfl) | hmem
  · cases h
  · cases h
  · cases h
  · cases h
  · exact List.any_eq_false.mp hlisted c (List.contains_iff_mem.mp hmem) h

namespace IsName

variable {s : String}

theorem ne_empty (h : IsName s) : s ≠ "" := by
  rintro rfl
  obtain ⟨c, hc, -⟩ := h.not_dots
  cases hc

theorem ne_of_mem (h : IsName s) {d : Char} (hd : Validation.isEntityNameChar d = false) :
    ∀ c ∈ s.toList, c ≠ d := by
  rintro c hc rfl
  rw [h.chars c hc] at hd
  cases hd

theorem not_mem (h : IsName s) {d : Char} (hd : Validation.isEntityNameChar d = false) :
    d ∉ s.toList :=
  fun hmem => h.ne_of_mem hd d hmem rfl

theorem counted_eq (h : IsName s) : counted s.toList = s.toList := by
  refine List.filter_eq_self.mpr fun c hc => ?_
  rw [isDropped_of_not_controlOrSpace (isControlOrSpace_of_isEntityNameChar (h.chars c hc))]
  rfl

/-- What escapes no character of a name leaves the name as it is. -/
theorem encode_eq (h : IsName s) {part : UrlPart}
    (hpart : part.escapes.any Validation.isEntityNameChar = false) :
    part.encode s.toList = s.toList := by
  refine percentEncode_of_plain fun c hc => ?_
  have hcode := toNat_of_isEntityNameChar (h.chars c hc)
  have hlisted : c ∉ part.escapes := fun hmem =>
    List.any_eq_false.mp hpart c hmem (h.chars c hc)
  have hcontrol : isControl c = false := by
    simp only [isControl, Bool.or_eq_false_iff, decide_eq_false_iff_not, beq_eq_false_iff_ne]
    omega
  refine ⟨by omega, ?_⟩
  simp [UrlPart.isEscaped, hcontrol, hlisted]

theorem not_spelled_by_dots (h : IsName s) :
    ¬(s.toList.all (· == '.') = true ∨ '%' ∈ s.toList) := by
  rintro (hall | hpercent)
  · obtain ⟨c, hc, hne⟩ := h.not_dots
    exact hne (by simpa using List.all_eq_true.mp hall c hc)
  · exact h.not_mem (by decide) hpercent

theorem not_isTwoDots (h : IsName s) : isTwoDots s = false := by
  have hspelled : ∀ d ∈ ["..", ".%2e", ".%2E", "%2e.", "%2E.", "%2e%2e", "%2e%2E", "%2E%2e",
      "%2E%2E"], d.toList.all (· == '.') = true ∨ '%' ∈ d.toList := by
    decide
  exact Bool.eq_false_iff.mpr fun hdots =>
    h.not_spelled_by_dots (hspelled s (List.contains_iff_mem.mp hdots))

theorem not_isDot (h : IsName s) : isDot s = false := by
  have hspelled : ∀ d ∈ [".", "%2e", "%2E"],
      d.toList.all (· == '.') = true ∨ '%' ∈ d.toList := by decide
  exact Bool.eq_false_iff.mpr fun hdot =>
    h.not_spelled_by_dots (hspelled s (List.contains_iff_mem.mp hdot))

/-- A name that is read behind a path is one segment more. -/
theorem readSegments_eq (h : IsName s) (special : Bool) (path : List String) :
    readSegments special path s.toList = path ++ [s] := by
  have hplain : (if special then s.toList.map fun c => if c = '\\' then '/' else c else s.toList) =
      s.toList := by
    split
    · refine (List.map_congr_left fun c hc => ?_).trans (List.map_id _)
      exact if_neg (h.ne_of_mem (d := '\\') (by decide) c hc)
    · rfl
  have hencode : UrlPart.path.encode s.toList = s.toList := h.encode_eq (by decide)
  simp only [readSegments, hplain, Text.splitOn_of_not_mem (h.not_mem (d := '/') (by decide)),
    List.map_cons, List.map_nil, hencode, String.ofList_toList, addAll, addLast, h.not_isTwoDots,
    h.not_isDot]
  rfl

end IsName

/-! ## Names that are read -/

namespace Web

theorem urlChars_eq_self {s : String} (h : ∀ c ∈ s.toList, isControlOrSpace c = false) :
    urlChars s = s.toList := by
  have hnone : ∀ c ∈ ([] : List Char).getLast?, isControlOrSpace c = false := by
    rintro c ⟨⟩
  exact Text.trimBoth_append hnone h

theorem scheme?_of_no_colon {cs : List Char} (h : ':' ∉ cs) : scheme? cs = none := by
  unfold scheme?
  dsimp only
  split
  next hrest => exact absurd ((List.dropWhile_sublist _).subset (hrest ▸ List.mem_cons_self)) h
  next => rfl

theorem hostRun_of_no_colon {cs : List Char} (h : ':' ∉ cs) (inBrackets : Bool) :
    hostRun inBrackets cs = (cs, []) := by
  induction cs generalizing inBrackets with
  | nil => rfl
  | cons c cs ih =>
    rw [List.mem_cons, not_or] at h
    rw [hostRun, if_neg fun hc => h.1 hc.1.symm]
    simp only [ih h.2]

namespace Url

/-- A name that is joined to a URL takes the place of the last segment. -/
theorem join_name {base : Url} {ss : List String} (hpath : base.path = .segments ss) {name : String}
    (h : IsName name) :
    base.join name = .ok { base with
      guarded := needsGuard base.host (.segments (ss.dropLast ++ [name]))
      path := .segments (ss.dropLast ++ [name])
      query := none
      fragment := none } := by
  have hchars : urlChars name = name.toList :=
    urlChars_eq_self fun c hc => isControlOrSpace_of_isEntityNameChar (h.chars c hc)
  have hscheme : scheme? name.toList = none := scheme?_of_no_colon (h.not_mem (by decide))
  have htail : Tail.of name.toList = ⟨name.toList, none, none⟩ := Tail.of_eq_path fun c hc =>
    ⟨h.ne_of_mem (by decide) c hc, h.ne_of_mem (by decide) c hc⟩
  have hsegments := h.readSegments_eq (isSpecial base.scheme) ss.dropLast
  simp only [join, hchars, hscheme, h.counted_eq]
  cases hname : name.toList with
  | nil => exact absurd (String.toList_eq_nil_iff.mp hname) h.ne_empty
  | cons c cs =>
    have hc : c ∈ name.toList := hname ▸ List.mem_cons_self
    have hslash : isSlash (isSpecial base.scheme) c = false := by
      simp [isSlash, h.ne_of_mem (d := '/') (by decide) c hc,
        h.ne_of_mem (d := '\\') (by decide) c hc]
    rw [hname] at htail hsegments
    simp only [readRelative, hpath, htail, hsegments, hslash,
      h.ne_of_mem (d := '#') (by decide) c hc, h.ne_of_mem (d := '?') (by decide) c hc]
    rfl

/-- Under a scheme that gives hosts no meaning of their own a name is a host. -/
theorem readAuthority_name {scheme : String} (hscheme : isSpecial scheme = false) {name : String}
    (h : IsName name) (atEnd : Bool) :
    readAuthority scheme name.toList atEnd = .ok (⟨"", name, none⟩, []) := by
  have huser : splitAtLast name.toList = none := by
    rw [splitAtLast, Text.splitOn_of_not_mem (h.not_mem (d := '@') (by decide))]
  have hrun : hostRun false name.toList = (name.toList, []) :=
    hostRun_of_no_colon (h.not_mem (by decide)) false
  have hhost : plainHost name.toList = .ok name := by
    have hbracket : bracketed? name.toList = none := by
      unfold bracketed?
      split
      next rest hname =>
        exact absurd (hname ▸ List.mem_cons_self) (h.not_mem (d := '[') (by decide))
      next => rfl
    have hforbidden : name.toList.any isForbiddenInHost = false :=
      List.any_eq_false.mpr fun c hc => by
        simp [isForbiddenInHost_of_isEntityNameChar (h.chars c hc)]
    have hencode : UrlPart.control.encode name.toList = name.toList := h.encode_eq (by decide)
    rw [plainHost, hbracket]
    simp only [hforbidden, hencode, String.ofList_toList]
    rfl
  have hport : readPort ((specialPort? scheme).getD none) [] = .ok (none, []) := rfl
  simp only [readAuthority, huser, hscheme, hrun, hhost, hport, ok_bind, pure_bind]
  simp [h.ne_empty]
  rfl

end Url

end Web

namespace Storage

/-- The address of a directory. -/
def directoryUrl (name : String) : Url :=
  ⟨"memory", "", some name, none, false, .segments [""], none, none⟩

theorem parse_directory {name : String} (h : IsName name) :
    Url.parse ("memory://" ++ name ++ "/") = .ok (directoryUrl name) := by
  have htext : ("memory://" ++ name ++ "/").toList =
      'm' :: 'e' :: 'm' :: 'o' :: 'r' :: 'y' :: ':' :: '/' :: '/' :: (name.toList ++ ['/']) := by
    simp
  have hchars : urlChars ("memory://" ++ name ++ "/") = ("memory://" ++ name ++ "/").toList := by
    refine urlChars_eq_self fun c hc => ?_
    have hparts : c ∈ "memory:///".toList ∨ c ∈ name.toList := by
      rw [htext] at hc
      simpa [or_assoc, or_comm, or_left_comm] using hc
    have hspelled : "memory:///".toList.all (fun c => !isControlOrSpace c) = true := by decide
    rcases hparts with hc | hc
    · simpa using List.all_eq_true.mp hspelled c hc
    · exact isControlOrSpace_of_isEntityNameChar (h.chars c hc)
  have hscheme : scheme? (urlChars ("memory://" ++ name ++ "/")) =
      some ("memory", '/' :: '/' :: (name.toList ++ ['/'])) := by
    rw [hchars, htext]
    rfl
  have hread : Url.readWithScheme "memory" ('/' :: '/' :: (name.toList ++ ['/'])) =
      Url.readWithAuthority "memory" (counted (name.toList ++ ['/'])) := rfl
  have hcounted : counted (name.toList ++ ['/']) = name.toList ++ ['/'] := by
    rw [counted, List.filter_append, ← counted, h.counted_eq]
    rfl
  have hplain : ∀ c ∈ name.toList, (!endsAuthority false c) = true := by
    intro c hc
    simp [endsAuthority, isSlash, h.ne_of_mem (d := '/') (by decide) c hc,
      h.ne_of_mem (d := '?') (by decide) c hc, h.ne_of_mem (d := '#') (by decide) c hc]
  have hspecial : isSpecial "memory" = false := rfl
  rw [Url.parse, hscheme]
  simp only [hread, hcounted, Url.readWithAuthority, hspecial,
    List.takeWhile_append_of_pos hplain, List.dropWhile_append_of_pos hplain]
  have htake : ['/'].takeWhile (fun c => !endsAuthority false c) = [] := rfl
  have hdrop : ['/'].dropWhile (fun c => !endsAuthority false c) = ['/'] := rfl
  simp only [htake, hdrop, List.append_nil, Url.readAuthority_name hspecial h, ok_bind]
  rfl

/-- The address of a file. -/
def fileUrl (directory file : String) : Url :=
  { directoryUrl directory with path := .segments [file] }

theorem join_file (directory : String) {name : String} (h : IsName name) :
    (directoryUrl directory).join name = .ok (fileUrl directory name) := by
  have hpath : (directoryUrl directory).path = .segments [""] := rfl
  exact Url.join_name hpath h

end Storage

end PlatformLink
