import Mathlib.Data.List.TakeWhile
import PlatformLink.Proofs.Outcome
import PlatformLink.Proofs.Web.Path
import PlatformLink.Text.Blank
import PlatformLink.Web.Url.Parse

/-!
# URLs of the web

What reading a text gives under the schemes of the web: such a URL was read with an authority, so it
has a host, its path is a list of segments without slashes, and no guard stands before it.
-/

namespace PlatformLink.Web

def IsWebScheme (scheme : String) : Prop :=
  scheme = "http" ∨ scheme = "https"

instance (scheme : String) : Decidable (IsWebScheme scheme) :=
  inferInstanceAs (Decidable (_ ∨ _))

theorem IsWebScheme.isSpecial {scheme : String} (h : IsWebScheme scheme) :
    isSpecial scheme = true := by
  rcases h with rfl | rfl <;> rfl

theorem IsWebScheme.ne_file {scheme : String} (h : IsWebScheme scheme) : scheme ≠ "file" := by
  rcases h with rfl | rfl <;> decide

structure WebUrl (u : Url) : Prop where
  scheme : IsWebScheme u.scheme
  hosted : u.host ≠ none
  unguarded : u.guarded = false
  segments : ∃ ss, u.path = .segments ss ∧ ∀ s ∈ ss, SlashFree s

/-! ## Characters that are read -/

theorem urlChars_eq_trimBoth (s : String) :
    urlChars s = Text.trimBoth isControlOrSpace s.toList := rfl

theorem isDropped_of_not_controlOrSpace {c : Char} (h : isControlOrSpace c = false) :
    isDropped c = false := by
  simp only [isDropped, Bool.or_eq_false_iff, beq_eq_false_iff_ne]
  refine ⟨⟨?_, ?_⟩, ?_⟩ <;> rintro rfl <;> cases h

/-! ## Segments that are read -/

theorem not_mem_of_mem_splitOn (sep : Char) (cs : List Char) :
    ∀ w ∈ Text.splitOn sep cs, sep ∉ w := by
  induction cs with
  | nil => simp [Text.splitOn]
  | cons c cs ih =>
    intro w hw
    by_cases h : c = sep
    · rw [Text.splitOn, if_pos h] at hw
      rcases List.mem_cons.mp hw with rfl | hw
      · exact List.not_mem_nil
      · exact ih w hw
    · rw [Text.splitOn, if_neg h] at hw
      split at hw
      next hs => exact absurd hs (Text.splitOn_ne_nil sep cs)
      next v vs hs =>
        rcases List.mem_cons.mp hw with rfl | hw
        · have hv : sep ∉ v := ih v (by simp [hs])
          exact List.not_mem_cons_of_ne_of_not_mem (Ne.symm h) hv
        · exact ih w (by simp [hs, hw])

theorem slashFree_encode (part : UrlPart) {cs : List Char} (h : '/' ∉ cs) :
    SlashFree (String.ofList (part.encode cs)) := by
  rw [SlashFree, String.toList_ofList]
  intro hmem
  rcases mem_percentEncode hmem with ⟨hcs, -⟩ | hpercent | hdigit
  · exact h hcs
  · exact absurd hpercent (by decide)
  · exact absurd hdigit (by decide)

theorem slashFree_of_mem_addAll {segments : List String} (hsegments : ∀ s ∈ segments, SlashFree s)
    {path : List String} (hpath : ∀ s ∈ path, SlashFree s) :
    ∀ s ∈ addAll path segments, SlashFree s := by
  induction segments generalizing path with
  | nil => exact hpath
  | cons segment rest ih =>
    have hsegment : SlashFree segment := hsegments segment List.mem_cons_self
    cases rest with
    | nil =>
      intro s hs
      rcases mem_addLast hs with hs | rfl | rfl
      · exact hpath s hs
      · exact hsegment
      · exact slashFree_empty
    | cons next rest =>
      refine ih (fun s hs => hsegments s (List.mem_cons_of_mem _ hs)) ?_
      intro s hs
      rcases mem_addInner hs with hs | rfl
      · exact hpath s hs
      · exact hsegment

theorem slashFree_of_mem_readSegments (special : Bool) (cs : List Char) :
    ∀ s ∈ readSegments special [] cs, SlashFree s := by
  refine slashFree_of_mem_addAll ?_ (by simp)
  intro s hs
  obtain ⟨w, hw, rfl⟩ := List.mem_map.mp hs
  exact slashFree_encode .path (not_mem_of_mem_splitOn '/' _ w hw)

theorem slashFree_of_mem_readPath (special : Bool) (cs : List Char) :
    ∀ s ∈ readPath special cs, SlashFree s := by
  unfold readPath
  split
  next =>
    split
    · simp [slashFree_empty]
    · simp
  next =>
    split <;> exact slashFree_of_mem_readSegments special _

/-! ## Tails -/

theorem Tail.of_eq_path {cs : List Char} (h : ∀ c ∈ cs, c ≠ '?' ∧ c ≠ '#') :
    Tail.of cs = ⟨cs, none, none⟩ := by
  have hfragment : ∀ c ∈ cs, (c != '#') = true := fun c hc => bne_iff_ne.mpr (h c hc).2
  have hquery : ∀ c ∈ cs, (c != '?') = true := fun c hc => bne_iff_ne.mpr (h c hc).1
  simp only [Tail.of, List.takeWhile_eq_self_iff.mpr hfragment,
    List.dropWhile_eq_nil_iff.mpr hfragment, List.takeWhile_eq_self_iff.mpr hquery,
    List.dropWhile_eq_nil_iff.mpr hquery, List.isEmpty_nil, if_true]

/-- A text with no query and no fragment is a path. -/
theorem Tail.forall_of_none {cs : List Char} (hquery : (Tail.of cs).query = none)
    (hfragment : (Tail.of cs).fragment = none) : ∀ c ∈ cs, c ≠ '?' ∧ c ≠ '#' := by
  have hnoFragment : ∀ c ∈ cs, (c != '#') = true := by
    simp only [Tail.of] at hfragment
    split at hfragment
    next hempty => exact List.dropWhile_eq_nil_iff.mp (List.isEmpty_iff.mp hempty)
    next => cases hfragment
  have hnoQuery : ∀ c ∈ cs, (c != '?') = true := by
    simp only [Tail.of, List.takeWhile_eq_self_iff.mpr hnoFragment] at hquery
    split at hquery
    next hempty => exact List.dropWhile_eq_nil_iff.mp (List.isEmpty_iff.mp hempty)
    next => cases hquery
  exact fun c hc => ⟨bne_iff_ne.mp (hnoQuery c hc), bne_iff_ne.mp (hnoFragment c hc)⟩

/-! ## What a scheme leads to -/

namespace Url

theorem readWithAuthority_eq {scheme : String} {cs : List Char} {u : Url}
    (h : readWithAuthority scheme cs = .ok u) :
    ∃ (a : Authority) (t : Tail),
      u = ofParts scheme (some a) (.segments (readPath (isSpecial scheme) t.path)) t := by
  obtain ⟨⟨a, rest⟩, -, hu⟩ := bind_eq_ok_iff.mp h
  exact ⟨a, _, (Except.ok.inj hu).symm⟩

theorem scheme_readFileHost {cs : List Char} {u : Url} (h : readFileHost cs = .ok u) :
    u.scheme = "file" := by
  have hread : ∀ v : Url, (.ok v : Except UrlFault Url) = .ok u → v.scheme = "file" →
      u.scheme = "file" := by
    intro v hv hfile
    rw [← Except.ok.inj hv, hfile]
  unfold readFileHost at h
  dsimp only at h
  split at h
  next => exact hread _ h rfl
  next =>
    split at h <;> obtain ⟨host, -, h⟩ := bind_eq_ok_iff.mp h
    all_goals
      split at h <;> exact hread _ h rfl

theorem scheme_readFile {cs : List Char} {u : Url} (h : readFile cs = .ok u) :
    u.scheme = "file" := by
  have hlocal : ∀ ds, (.ok (readLocalFile ds) : Except UrlFault Url) = .ok u →
      u.scheme = "file" := by
    intro ds hds
    rw [← Except.ok.inj hds]
    rfl
  unfold readFile at h
  split at h
  next => exact hlocal _ h
  next =>
    split at h
    next =>
      split at h
      next => exact hlocal _ h
      next =>
        split at h
        · exact scheme_readFileHost h
        · exact hlocal _ h
    next => exact hlocal _ h

theorem scheme_readWithScheme {scheme : String} {cs : List Char} {u : Url}
    (h : readWithScheme scheme cs = .ok u) : u.scheme = scheme := by
  unfold readWithScheme at h
  split at h
  next hfile =>
    rw [hfile]
    exact scheme_readFile h
  next =>
    split at h
    next =>
      obtain ⟨a, t, rfl⟩ := readWithAuthority_eq h
      rfl
    next =>
      split at h
      next =>
        obtain ⟨a, t, rfl⟩ := readWithAuthority_eq h
        rfl
      next =>
        rw [← Except.ok.inj h]
        rfl
      next =>
        rw [← Except.ok.inj h]
        rfl

/-- What is read under a scheme of the web. -/
theorem webUrl_parse {s : String} {u : Url} (h : parse s = .ok u) (hweb : IsWebScheme u.scheme) :
    WebUrl u := by
  unfold parse at h
  split at h
  next scheme rest hscheme =>
    have heq : u.scheme = scheme := scheme_readWithScheme h
    rw [heq] at hweb
    rw [readWithScheme, if_neg hweb.ne_file, if_pos hweb.isSpecial] at h
    obtain ⟨a, t, rfl⟩ := readWithAuthority_eq h
    refine ⟨hweb, nofun, ?_, _, rfl, slashFree_of_mem_readPath _ t.path⟩
    exact needsGuard_host a.host (.segments (readPath (isSpecial scheme) t.path))
  next => cases h

end Url

end PlatformLink.Web
