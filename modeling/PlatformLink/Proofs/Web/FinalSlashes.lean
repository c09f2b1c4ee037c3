import PlatformLink.Proofs.Text.Pieces
import PlatformLink.Proofs.Text.Trimming
import PlatformLink.Proofs.Web.WebUrl

/-!
# Slashes at the end of a URL

Slashes behind a URL of the web that has no query and no fragment belong to its path: scheme and
authority are read as before, and behind the last segment there is an empty one for each slash. A
segment that was the last and is no longer is added as one after which the path goes on; for dots
this makes a difference, since the empty segment that stands for them at the end is then not there.
-/

namespace PlatformLink.Web

/-! ## Segments behind a path -/

theorem addAll_cons_cons (path : List String) (a b : String) (rest : List String) :
    addAll path (a :: b :: rest) = addAll (addInner path a) (b :: rest) := rfl

theorem addAll_append (path before : List String) (segment : String) (rest : List String) :
    addAll path (before ++ segment :: rest) =
      addAll (before.foldl addInner path) (segment :: rest) := by
  induction before generalizing path with
  | nil => rfl
  | cons b before ih =>
    obtain ⟨c, more, hc⟩ : ∃ c more, before ++ segment :: rest = c :: more :=
      List.exists_cons_of_ne_nil (List.append_ne_nil_of_right_ne_nil _ (List.cons_ne_nil _ _))
    have hstep : addAll path (b :: (before ++ segment :: rest)) =
        addAll (addInner path b) (before ++ segment :: rest) := by
      rw [hc, addAll_cons_cons]
    rw [List.cons_append, hstep, ih, List.foldl_cons]

theorem addInner_empty (path : List String) : addInner path "" = path ++ [""] := rfl

theorem addLast_empty (path : List String) : addLast path "" = path ++ [""] := rfl

theorem addAll_replicate_empty (path : List String) (n : Nat) :
    addAll path (List.replicate (n + 1) "") = path ++ List.replicate (n + 1) "" := by
  induction n generalizing path with
  | zero => exact addLast_empty path
  | succ n ih =>
    have hstep : addAll path (List.replicate (n + 2) "") =
        addAll (addInner path "") (List.replicate (n + 1) "") := rfl
    rw [hstep, ih, addInner_empty, List.append_assoc]
    rfl

/-- The segment that ends a path is added like the others, but behind dots there is an empty one. -/
theorem addLast_eq (path : List String) (segment : String) :
    addLast path segment =
      if isTwoDots segment || isDot segment then addInner path segment ++ [""]
      else addInner path segment := by
  unfold addLast addInner
  cases isTwoDots segment <;> cases isDot segment <;> rfl

theorem addInner_of_not_dots (path : List String) {segment : String}
    (h : ¬(isTwoDots segment || isDot segment) = true) :
    addInner path segment = path ++ [segment] := by
  rw [Bool.or_eq_true, not_or, Bool.not_eq_true, Bool.not_eq_true] at h
  simp [addInner, h.1, h.2]

/-! ## Slashes behind a path -/

/-- Whether a text ends in one of the slashes that a special URL has. -/
def endsInSlash (cs : List Char) : Bool :=
  cs.getLast?.any (isSlash true)

theorem endsInSlash_cons {c : Char} (hc : isSlash true c = true) (cs : List Char) :
    endsInSlash (c :: cs) = true ↔ cs = [] ∨ endsInSlash cs = true := by
  rcases List.eq_nil_or_concat cs with rfl | ⟨init, d, rfl⟩
  · simp [endsInSlash, hc]
  · have hne : init ++ [d] ≠ [] := List.append_ne_nil_of_right_ne_nil _ (List.cons_ne_nil _ _)
    rw [List.concat_eq_append, or_iff_right hne, endsInSlash, endsInSlash, ← List.cons_append,
      List.getLast?_concat, List.getLast?_concat]

/-- A backslash is read as a slash. -/
def asSlash (c : Char) : Char :=
  if c = '\\' then '/' else c

theorem asSlash_eq_slash_iff (c : Char) : asSlash c = '/' ↔ isSlash true c = true := by
  unfold asSlash isSlash
  split
  next h => simp [h]
  next h => simp [h]

theorem last_asSlash_iff (cs : List Char) :
    (cs.map asSlash = [] ∨ (cs.map asSlash).getLast? = some '/') ↔
      cs = [] ∨ endsInSlash cs = true := by
  rw [List.map_eq_nil_iff, List.getLast?_map, endsInSlash, Option.map_eq_some_iff,
    Option.any_eq_true]
  simp only [asSlash_eq_slash_iff]

/-- The segment of a piece between slashes. -/
def pieceSegment (w : List Char) : String :=
  String.ofList (UrlPart.path.encode w)

theorem pieceSegment_eq_empty_iff (w : List Char) : pieceSegment w = "" ↔ w = [] := by
  rw [pieceSegment, String.ofList_eq, String.toList_empty]
  exact percentEncode_eq_nil_iff _ w

theorem readSegments_special (cs : List Char) :
    readSegments true [] cs =
      addAll [] ((Text.splitOn '/' (cs.map asSlash)).map pieceSegment) := rfl

/-- What slashes behind segments make of them: the last one is added to the path before it as one
that does not end it. -/
theorem readSegments_slashes (cs : List Char) :
    ∃ path last, readSegments true [] cs = addLast path last ∧
      (last = "" ↔ cs = [] ∨ endsInSlash cs = true) ∧
      ∀ n, readSegments true [] (cs ++ List.replicate (n + 1) '/') =
        addInner path last ++ List.replicate (n + 1) "" := by
  obtain ⟨ws, w, hws⟩ := (List.eq_nil_or_concat (Text.splitOn '/' (cs.map asSlash))).resolve_left
    (Text.splitOn_ne_nil '/' (cs.map asSlash))
  rw [List.concat_eq_append] at hws
  refine ⟨(ws.map pieceSegment).foldl addInner [], pieceSegment w, ?_, ?_, fun n => ?_⟩
  · rw [readSegments_special, hws, List.map_append, List.map_singleton, addAll_append]
    rfl
  · rw [pieceSegment_eq_empty_iff, Text.last_splitOn_eq_nil_iff hws, last_asSlash_iff]
  · have hslash : asSlash '/' = '/' := rfl
    have hempty : pieceSegment [] = "" := rfl
    rw [readSegments_special, List.map_append, List.map_replicate, hslash,
      Text.splitOn_append_replicate, hws, List.append_assoc, List.singleton_append, List.map_append,
      List.map_cons, List.map_replicate, hempty, addAll_append, List.replicate_succ,
      addAll_cons_cons, ← List.replicate_succ, addAll_replicate_empty]

theorem readPath_cons {c : Char} (hc : isSlash true c = true) (cs : List Char) :
    readPath true (c :: cs) = readSegments true [] cs :=
  if_pos hc

/-- A path of no characters is read like one that is a dot. -/
theorem readPath_slashes {cs : List Char} (h : ∀ c ∈ cs.head?, isSlash true c = true) :
    ∃ path last, readPath true cs = addLast path last ∧ (last = "" ↔ endsInSlash cs = true) ∧
      ∀ n, readPath true (cs ++ List.replicate (n + 1) '/') =
        addInner path last ++ List.replicate (n + 1) "" := by
  cases cs with
  | nil =>
    refine ⟨[], ".", rfl, by decide, fun n => ?_⟩
    have hslash : asSlash '/' = '/' := rfl
    have hempty : pieceSegment [] = "" := rfl
    rw [List.nil_append, List.replicate_succ, readPath_cons rfl, readSegments_special,
      List.map_replicate, hslash, Text.splitOn_replicate, List.map_replicate, hempty,
      addAll_replicate_empty]
    rfl
  | cons c cs =>
    have hc : isSlash true c = true := h c rfl
    obtain ⟨path, last, hread, hlast, hslashes⟩ := readSegments_slashes cs
    refine ⟨path, last, ?_, ?_, fun n => ?_⟩
    · rw [readPath_cons hc, hread]
    · rw [hlast, endsInSlash_cons hc]
    · rw [List.cons_append, readPath_cons hc, hslashes]

/-! ## The front of a path with slashes -/

theorem front_concat_empty_eq (init : List String) : front (init ++ [""]) = openEnd init := by
  by_cases h : init = [""]
  · subst h
    rfl
  · rw [front_concat_empty h, openEnd, if_neg h]

/-- The segments before the slashes at the end of a path, and how many empty segments follow. -/
theorem exists_before_slashes (path : List String) (last : String) :
    ∃ before, front (addLast path last) = openEnd before ∧
      (addLast path last = [""] ↔ before = []) ∧
      ∀ n, addInner path last ++ List.replicate n "" =
        before ++ List.replicate (n + if last = "" then 1 else 0) "" := by
  by_cases hempty : last = ""
  · subst hempty
    refine ⟨path, front_concat_empty_eq path, by simp [addLast_empty], fun n => ?_⟩
    rw [addInner_empty, List.append_assoc, if_pos rfl, List.replicate_succ, List.singleton_append]
  · rw [addLast_eq]
    simp only [if_neg hempty, Nat.add_zero]
    refine ⟨addInner path last, ?_, ?_, fun n => rfl⟩
    · split
      next => exact front_concat_empty_eq _
      next hdots => rw [addInner_of_not_dots path hdots, front_concat_of_ne path hempty,
        openEnd_concat_of_ne path hempty]
    · split
      next => simp
      next hdots =>
        rw [addInner_of_not_dots path hdots]
        simp [concat_ne_empty_segment path hempty]

theorem length_openEnd_le (path : List String) : (openEnd path).length ≤ path.length := by
  unfold openEnd
  split
  · exact Nat.zero_le _
  · exact Nat.le_refl _

/-- Only one empty segment behind no others is opened. -/
theorem openEnd_append_replicate_eq_iff (before : List String) (n : Nat) :
    openEnd (before ++ List.replicate n "") = openEnd before ↔
      n ≤ if before = [] then 1 else 0 := by
  cases n with
  | zero => simp
  | succ n =>
    by_cases hbefore : before = []
    · subst hbefore
      cases n with
      | zero => simp [openEnd]
      | succ n => simp [openEnd, List.replicate_succ]
    · have hne : openEnd (before ++ List.replicate (n + 1) "") ≠ openEnd before := by
        intro heq
        have hlength := congrArg List.length heq
        rw [openEnd_append hbefore (by simp), List.length_append, List.length_replicate] at hlength
        have hshort := length_openEnd_le before
        omega
      simp [hbefore, hne]

/-! ## Slashes behind a scheme and an authority -/

theorem counted_append (cs ds : List Char) : counted (cs ++ ds) = counted cs ++ counted ds :=
  List.filter_append ..

theorem counted_replicate_slash (n : Nat) :
    counted (List.replicate n '/') = List.replicate n '/' :=
  List.filter_eq_self.mpr fun c hc => by rw [List.eq_of_mem_replicate hc]; rfl

theorem scheme?_slashes {cs rest : List Char} {scheme : String}
    (h : scheme? cs = some (scheme, rest)) :
    rest <:+ cs ∧ ∀ n, scheme? (cs ++ List.replicate n '/') =
      some (scheme, rest ++ List.replicate n '/') := by
  have hslash : (isSchemeChar '/' || isDropped '/') = false := by decide
  unfold scheme? at h ⊢
  dsimp only at h ⊢
  split at h
  next c name after hname hafter =>
    split at h
    next halpha =>
      obtain ⟨rfl, rfl⟩ := Prod.mk.inj (Option.some.inj h)
      refine ⟨(List.suffix_cons ':' after).trans (hafter ▸ List.dropWhile_suffix _), fun n => ?_⟩
      rw [Text.takeWhile_append_replicate hslash, Text.dropWhile_append_replicate hslash, hname,
        hafter]
      exact if_pos halpha
    next => cases h
  next => cases h

theorem hostRun_subset (inBrackets : Bool) (cs : List Char) : (hostRun inBrackets cs).2 ⊆ cs := by
  induction cs generalizing inBrackets with
  | nil => exact List.nil_subset _
  | cons c cs ih =>
    rw [hostRun]
    split
    · exact List.Subset.refl _
    · exact List.subset_cons_of_subset c (ih _)

theorem splitAtLast_subset {cs user rest : List Char} (h : splitAtLast cs = some (user, rest)) :
    rest ⊆ cs := by
  unfold splitAtLast at h
  split at h
  next => cases h
  next => cases h
  next =>
    obtain ⟨-, rfl⟩ := Prod.mk.inj (Option.some.inj h)
    cases hlast : (Text.splitOn '@' cs).getLast? with
    | none => exact List.nil_subset _
    | some w => exact Text.subset_of_mem_splitOn (List.mem_of_getLast? hlast)

/-- Nothing follows a port in which no backslash stands. -/
theorem readPort_eq_ok {default port : Option Nat} {cs rest : List Char}
    (h : readPort default cs = .ok (port, rest)) (hcs : '\\' ∉ cs) : rest = [] := by
  have hdigits : (cs.drop 1).takeWhile (· != '\\') = cs.drop 1 := by
    refine List.takeWhile_eq_self_iff.mpr fun c hc => bne_iff_ne.mpr ?_
    rintro rfl
    exact hcs (List.mem_of_mem_drop hc)
  simp only [readPort, hdigits] at h
  cases hport : portOf default (cs.drop 1) with
  | error e =>
    rw [hport] at h
    cases h
  | ok port' =>
    rw [hport] at h
    rw [← (Prod.mk.inj (Except.ok.inj h)).2, List.length_drop, List.drop_eq_nil_iff]
    omega

section Authority

variable {scheme : String} {text rest : List Char} {a : Authority}

/-- Reads a host of a special scheme and its port, behind a user. -/
def readHostPort (scheme userinfo : String) (text : List Char) :
    Except UrlFault (Authority × List Char) :=
  if (hostRun false text).1.isEmpty then .error .emptyHost
  else do
    let host ← domainHost (hostRun false text).1
    if host.isEmpty ∧ (!(hostRun false text).2.isEmpty ∨ !userinfo.isEmpty) then .error .emptyHost
    else do
      let (port, rest) ← readPort ((specialPort? scheme).getD none) (hostRun false text).2
      return (⟨userinfo, host, port⟩, rest)

/-- Under a special scheme it does not matter whether anything follows the authority. -/
theorem readAuthority_special (hspecial : isSpecial scheme = true) (text : List Char)
    (atEnd : Bool) :
    readAuthority scheme text atEnd =
      match splitAtLast text with
      | none => readHostPort scheme "" text
      | some ([], []) => .error .emptyHost
      | some (user, rest) => readHostPort scheme (userinfoText user) rest := by
  unfold readAuthority readHostPort
  simp only [hspecial, true_and, if_true]
  cases splitAtLast text with
  | none => simp only [pure_bind, error_bind]
  | some p =>
    obtain ⟨user, chars⟩ := p
    cases user <;> cases chars <;> simp only [pure_bind, error_bind]
    -- Nothing is read of a host of no characters.
    cases atEnd <;> rfl

theorem readAuthority_nil (hspecial : isSpecial scheme = true) (atEnd : Bool) :
    readAuthority scheme [] atEnd = .error .emptyHost := by
  rw [readAuthority_special hspecial]
  rfl

theorem readHostPort_eq_ok {userinfo : String} (htext : '\\' ∉ text)
    (h : readHostPort scheme userinfo text = .ok (a, rest)) : rest = [] := by
  unfold readHostPort at h
  split at h
  next => cases h
  next =>
    obtain ⟨host, -, h⟩ := bind_eq_ok_iff.mp h
    split at h
    next => cases h
    next =>
      obtain ⟨⟨port, more⟩, hport, h⟩ := bind_eq_ok_iff.mp h
      rw [← (Prod.mk.inj (Except.ok.inj h)).2]
      exact readPort_eq_ok hport fun hmem => htext (hostRun_subset false text hmem)

/-- An authority is read to its end. -/
theorem readAuthority_eq_ok (hspecial : isSpecial scheme = true) {atEnd : Bool}
    (htext : '\\' ∉ text) (h : readAuthority scheme text atEnd = .ok (a, rest)) : rest = [] := by
  rw [readAuthority_special hspecial] at h
  split at h
  next => exact readHostPort_eq_ok htext h
  next => cases h
  next user chars _ huser =>
    exact readHostPort_eq_ok (fun hmem => htext (splitAtLast_subset huser hmem)) h

end Authority

/-- An authority, and the path behind it that goes on to the end. -/
structure AuthorityPath (scheme : String) (before path : List Char) (a : Authority) : Prop where
  read : ∀ atEnd, readAuthority scheme before atEnd = .ok (a, [])
  before_plain : ∀ c ∈ before, endsAuthority true c = false
  path_plain : ∀ c ∈ path, c ≠ '?' ∧ c ≠ '#'
  slash_first : ∀ c ∈ path.head?, isSlash true c = true

namespace AuthorityPath

variable {scheme : String} {before path : List Char} {a : Authority}

theorem before_ne_nil (h : AuthorityPath scheme before path a)
    (hspecial : isSpecial scheme = true) : before ≠ [] := by
  rintro rfl
  have hnone := h.read true
  rw [readAuthority_nil hspecial] at hnone
  cases hnone

theorem not_isSlash (h : AuthorityPath scheme before path a) :
    ∀ c ∈ before, isSlash true c = false := by
  intro c hc
  have hplain := h.before_plain c hc
  simp only [endsAuthority, Bool.or_eq_false_iff] at hplain
  exact hplain.1.1

/-- Slashes go on with the path. -/
theorem append_slashes (h : AuthorityPath scheme before path a) (n : Nat) :
    AuthorityPath scheme before (path ++ List.replicate n '/') a where
  read := h.read
  before_plain := h.before_plain
  path_plain := by
    intro c hc
    rcases List.mem_append.mp hc with hc | hc
    · exact h.path_plain c hc
    · rw [List.eq_of_mem_replicate hc]
      decide
  slash_first := by
    intro c hc
    rw [List.head?_append] at hc
    cases hhead : path.head? with
    | some d =>
      rw [hhead] at hc
      exact h.slash_first c (hhead.trans hc)
    | none =>
      rw [hhead] at hc
      rw [List.eq_of_mem_replicate (List.mem_of_mem_head? hc)]
      rfl

/-- The URL that is read of them. -/
theorem readWithAuthority_eq (h : AuthorityPath scheme before path a)
    (hspecial : isSpecial scheme = true) :
    Url.readWithAuthority scheme (before ++ path) =
      .ok (Url.ofParts scheme (some a) (.segments (readPath true path)) ⟨path, none, none⟩) := by
  have hbefore : ∀ c ∈ before, (!endsAuthority true c) = true := fun c hc => by
    rw [h.before_plain c hc]
    rfl
  have hends : ∀ c ∈ path.head?, endsAuthority true c = true := fun c hc => by
    simp [endsAuthority, h.slash_first c hc]
  have hpath : path.takeWhile (fun c => !endsAuthority true c) = [] ∧
      path.dropWhile (fun c => !endsAuthority true c) = path := by
    cases path with
    | nil => exact ⟨rfl, rfl⟩
    | cons c cs => simp [hends c rfl]
  simp only [Url.readWithAuthority, hspecial, List.takeWhile_append_of_pos hbefore,
    List.dropWhile_append_of_pos hbefore, hpath.1, hpath.2, List.append_nil, h.read, ok_bind,
    List.nil_append, Tail.of_eq_path h.path_plain]
  rfl

end AuthorityPath

/-- What is read without a query and a fragment is an authority with a path behind it. -/
theorem exists_authorityPath {scheme : String} {cs : List Char} {u : Url}
    (hspecial : isSpecial scheme = true) (h : Url.readWithAuthority scheme cs = .ok u)
    (hquery : u.query = none) (hfragment : u.fragment = none) :
    ∃ before path a, cs = before ++ path ∧ AuthorityPath scheme before path a := by
  obtain ⟨⟨a, rest⟩, hauthority, hu⟩ := bind_eq_ok_iff.mp h
  simp only [hspecial] at hauthority hu
  have hplain : ∀ c ∈ cs.takeWhile fun c => !endsAuthority true c, endsAuthority true c = false :=
    fun c hc => by simpa using List.mem_takeWhile_imp hc
  obtain rfl : rest = [] :=
    readAuthority_eq_ok hspecial (fun hmem => absurd (hplain _ hmem) (by decide)) hauthority
  obtain rfl := Except.ok.inj hu
  have hchars : ∀ c ∈ cs.dropWhile fun c => !endsAuthority true c, c ≠ '?' ∧ c ≠ '#' :=
    Tail.forall_of_none (Option.map_eq_none_iff.mp hquery) (Option.map_eq_none_iff.mp hfragment)
  refine ⟨_, _, a, List.takeWhile_append_dropWhile.symm, ?_, hplain, hchars, ?_⟩
  · intro atEnd
    rw [readAuthority_special hspecial] at hauthority ⊢
    exact hauthority
  · intro c hc
    have hends := List.head?_dropWhile_not (fun c => !endsAuthority true c) cs
    rw [Option.mem_def.mp hc] at hends
    simpa [endsAuthority, hchars c (List.mem_of_mem_head? hc)] using hends

/-! ## Slashes behind a text -/

/-- Slashes alone. -/
def slashes (n : Nat) : String :=
  String.ofList (List.replicate n '/')

theorem urlChars_slashes {s : String} (h : ∀ c ∈ s.toList.getLast?, isControlOrSpace c = false)
    (n : Nat) : urlChars (s ++ slashes n) = urlChars s ++ List.replicate n '/' := by
  have hslash : ∀ c ∈ List.replicate n '/', isControlOrSpace c = false := fun c hc => by
    rw [List.eq_of_mem_replicate hc]
    rfl
  rw [urlChars_eq_trimBoth, String.toList_append, slashes, String.toList_ofList,
    Text.trimBoth_append h hslash, urlChars_eq_trimBoth]

theorem getLast?_of_suffix {as bs : List Char} (h : as <:+ bs) (hne : as ≠ []) :
    bs.getLast? = as.getLast? := by
  obtain ⟨front, rfl⟩ := h
  exact List.getLast?_append_of_ne_nil front hne

theorem getLast?_counted {cs : List Char} (h : ∀ c ∈ cs.getLast?, isControlOrSpace c = false) :
    (counted cs).getLast? = cs.getLast? := by
  rcases List.eq_nil_or_concat cs with rfl | ⟨init, c, rfl⟩
  · rfl
  · rw [List.concat_eq_append] at *
    have hc : isDropped c = false := isDropped_of_not_controlOrSpace (h c List.getLast?_concat)
    have hcounted : counted [c] = [c] := List.filter_cons_of_pos (by simp [hc])
    rw [counted_append, hcounted, List.getLast?_concat, List.getLast?_concat]

/-- Reading from the left does not lose the last character. -/
theorem getLast?_read {s : String} (h : ∀ c ∈ s.toList.getLast?, isControlOrSpace c = false)
    {rest : List Char} (hrest : rest <:+ urlChars s)
    (hne : (counted rest).dropWhile (isSlash true) ≠ []) :
    ((counted rest).dropWhile (isSlash true)).getLast? = s.toList.getLast? := by
  have hcounted : counted rest ≠ [] := by
    intro hnil
    rw [hnil] at hne
    exact hne rfl
  have hrestNe : rest ≠ [] := by
    rintro rfl
    exact hcounted rfl
  have hchars : urlChars s <:+ s.toList := by
    rw [urlChars_eq_trimBoth, Text.trimBoth_of_last h]
    exact List.dropWhile_suffix _
  have hlast : s.toList.getLast? = rest.getLast? := getLast?_of_suffix (hrest.trans hchars) hrestNe
  rw [← getLast?_of_suffix (List.dropWhile_suffix _) hne, hlast]
  exact getLast?_counted (hlast ▸ h)

theorem endsInSlash_append {before path : List Char}
    (hbefore : ∀ c ∈ before, isSlash true c = false) :
    endsInSlash (before ++ path) = endsInSlash path := by
  by_cases hpath : path = []
  · subst hpath
    rw [List.append_nil, endsInSlash, endsInSlash]
    cases hlast : before.getLast? with
    | none => rfl
    | some c => exact hbefore c (List.mem_of_getLast? hlast)
  · rw [endsInSlash, endsInSlash, List.getLast?_append_of_ne_nil before hpath]

/-- Slashes behind a URL of the web that ends in its path are empty segments at its end. -/
theorem Url.parse_slashes {s : String} {u : Url} (h : parse s = .ok u) (hweb : IsWebScheme u.scheme)
    (hquery : u.query = none) (hfragment : u.fragment = none)
    (hlast : ∀ c ∈ s.toList.getLast?, isControlOrSpace c = false) :
    ∃ ss before, u.path = .segments ss ∧ front ss = openEnd before ∧ (ss = [""] ↔ before = []) ∧
      ∀ n, parse (s ++ slashes (n + 1)) = .ok { u with
        path := .segments
          (before ++ List.replicate (n + 1 + if endsInSlash s.toList then 1 else 0) "") } := by
  unfold parse at h
  split at h
  next scheme rest hscheme =>
    have heq : u.scheme = scheme := scheme_readWithScheme h
    rw [heq] at hweb
    rw [readWithScheme, if_neg hweb.ne_file, if_pos hweb.isSpecial] at h
    obtain ⟨hrest, hmore⟩ := scheme?_slashes hscheme
    obtain ⟨authority, tail, a, hcs, hparts⟩ :=
      exists_authorityPath hweb.isSpecial h hquery hfragment
    have hcsNe : (counted rest).dropWhile (isSlash true) ≠ [] :=
      hcs ▸ List.append_ne_nil_of_left_ne_nil (hparts.before_ne_nil hweb.isSpecial) tail
    rw [hcs, hparts.readWithAuthority_eq hweb.isSpecial] at h
    obtain rfl := Except.ok.inj h
    obtain ⟨path, last, hread, hempty, hreadSlashes⟩ := readPath_slashes hparts.slash_first
    obtain ⟨before, hfront, hnone, hreplicate⟩ := exists_before_slashes path last
    have hends : last = "" ↔ endsInSlash s.toList = true := by
      rw [hempty, ← endsInSlash_append hparts.not_isSlash, ← hcs, endsInSlash, endsInSlash,
        getLast?_read hlast hrest hcsNe]
    refine ⟨_, before, rfl, hread ▸ hfront, hread ▸ hnone, fun n => ?_⟩
    have hdrop : (counted (rest ++ List.replicate (n + 1) '/')).dropWhile (isSlash true) =
        (counted rest).dropWhile (isSlash true) ++ List.replicate (n + 1) '/' := by
      rw [counted_append, counted_replicate_slash, List.dropWhile_append, if_neg]
      rw [List.isEmpty_iff]
      exact hcsNe
    have hslashed := (hparts.append_slashes (n + 1)).readWithAuthority_eq hweb.isSpecial
    rw [← List.append_assoc, hreadSlashes, hreplicate] at hslashed
    rw [parse, urlChars_slashes hlast, hmore]
    simp only [readWithScheme, if_neg hweb.ne_file, if_pos hweb.isSpecial, hdrop, hcs, hslashed,
      hends]
    rfl
  next => cases h

end PlatformLink.Web
