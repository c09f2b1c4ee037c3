import PlatformLink.Proofs.Endpoint.Sending
import PlatformLink.Proofs.Web.KeptTexts

/-!
# URLs of resources

A client asks for a resource by texts, which are put behind its root. A text that is one dot or two
is passed over; every other text without tabs and line ends becomes one segment, empty or not, and
the segment decodes to the text. So a URL that is cut at its slashes gives back the texts by which
it was made, whatever characters they hold.
-/

namespace PlatformLink

/-! ## Texts behind a path -/

namespace Web

/-- The pieces of a path that segments were added to. -/
theorem splitOn_append_segmentsText (cs : List Char) {ss : List String}
    (h : ∀ s ∈ ss, SlashFree s) :
    Text.splitOn '/' (cs ++ (segmentsText ss).toList) =
      Text.splitOn '/' cs ++ ss.map String.toList := by
  induction ss generalizing cs with
  | nil => simp [segmentsText_nil]
  | cons s ss ih =>
    obtain ⟨hs, hss⟩ := List.forall_mem_cons.mp h
    have hcons : (segmentsText (s :: ss)).toList =
        '/' :: (s.toList ++ (segmentsText ss).toList) := by
      simp [toList_segmentsText]
    rw [hcons, Text.splitOn_append_cons, ih s.toList hss, Text.splitOn_of_not_mem hs]
    rfl

/-- The texts that are not passed over. -/
def withoutDots (texts : List String) : List String :=
  texts.filter fun s => s ≠ "." ∧ s ≠ ".."

theorem withoutDots_eq_self {texts : List String} (h : ∀ s ∈ texts, s ≠ "." ∧ s ≠ "..") :
    withoutDots texts = texts :=
  List.filter_eq_self.mpr fun s hs => decide_eq_true (h s hs)

theorem isKept_of_mem_withoutDots {texts : List String}
    (h : ∀ s ∈ texts, ∀ c ∈ s.toList, isDropped c = false) : ∀ s ∈ withoutDots texts, IsKept s := by
  intro s hs
  obtain ⟨hmem, hdots⟩ := List.mem_filter.mp hs
  obtain ⟨hdot, htwo⟩ := of_decide_eq_true hdots
  exact ⟨hdot, htwo, h s hmem⟩

theorem pushSegments_withoutDots (file : Bool) (part : UrlPart) (path texts : List String) :
    pushSegments file part path (withoutDots texts) = pushSegments file part path texts := by
  induction texts generalizing path with
  | nil => rfl
  | cons s texts ih =>
    rw [pushSegments_cons, ← ih]
    by_cases h : s = "." ∨ s = ".."
    · have hskip : withoutDots (s :: texts) = withoutDots texts := by
        refine List.filter_cons_of_neg ?_
        rw [decide_eq_true_eq, ← not_or, not_not]
        exact h
      rw [hskip, pushSegment, if_pos h]
    · have hkeep : withoutDots (s :: texts) = s :: withoutDots texts :=
        List.filter_cons_of_pos (decide_eq_true (not_or.mp h))
      rw [hkeep, pushSegments_cons]

theorem getLast?_segmentsText_concat_empty (init : List String) :
    (segmentsText (init ++ [""])).toList.getLast? = some '/' := by
  simp [toList_segmentsText_concat]

theorem Url.text_of_bare {u : Url} (hquery : u.query = none) (hfragment : u.fragment = none) :
    u.text = u.scheme ++ ":" ++ u.authorityText ++ u.pathText := by
  simp [Url.text, hquery, hfragment]

end Web

/-! ## Resources under a root -/

namespace Endpoint

open Web

variable {σ : Type} {c : Client σ} {tenant : Option Tenant}

/-- The segments of texts that are not passed over. -/
def encodedTexts (texts : List String) : List String :=
  (withoutDots texts).map fun s => segmentOf .specialSegment s.toList

theorem slashFree_of_mem_encodedTexts (texts : List String) :
    ∀ segment ∈ encodedTexts texts, SlashFree segment := by
  intro segment hsegment
  obtain ⟨s, -, rfl⟩ := List.mem_map.mp hsegment
  exact slashFree_segmentOf (by decide) s.toList

theorem segmentText?_encodedTexts {texts : List String}
    (h : ∀ s ∈ texts, ∀ c ∈ s.toList, isDropped c = false) :
    (encodedTexts texts).map segmentText? = (withoutDots texts).map some := by
  have hpart : UrlPart.specialSegment.isEscaped '%' = true := by decide
  rw [encodedTexts, List.map_map]
  refine List.map_congr_left fun s hs => ?_
  rw [Function.comp_apply]
  exact (isKept_of_mem_withoutDots h s hs).segmentText? hpart

/-- A root that does not end in a slash ends in a segment that is not empty. -/
theorem exists_concat_of_root (hroot : WebRoot tenant c.root) (hany : AnyRoot c.root)
    (hslash : c.root.text.toList.getLast? ≠ some '/') :
    ∃ init last, c.root.path = .segments (init ++ [last]) ∧ last ≠ "" := by
  obtain ⟨ss, hpath⟩ := hroot.segments
  obtain ⟨init, last, hconcat⟩ := (List.eq_nil_or_concat (rootSegments ss tenant)).resolve_left
    (List.ne_nil_of_mem (api_mem_rootSegments ss tenant))
  rw [List.concat_eq_append] at hconcat
  rw [hconcat] at hpath
  refine ⟨init, last, hpath, ?_⟩
  rintro rfl
  refine hslash ?_
  have hpathText : c.root.pathText = segmentsText (init ++ [""]) := by
    simp [Url.pathText, hroot.unguarded, hpath]
  rw [Url.text_of_bare hany.query hany.fragment, String.toList_append, List.getLast?_append,
    hpathText, getLast?_segmentsText_concat_empty]
  rfl

theorem urlFor_of_undropped (hroot : WebRoot tenant c.root) (hany : AnyRoot c.root)
    (hslash : c.root.text.toList.getLast? ≠ some '/') {texts : List String}
    (h : ∀ s ∈ texts, ∀ c ∈ s.toList, isDropped c = false) :
    ∃ ss, c.root.path = .segments ss ∧
      c.urlFor texts = { c.root with path := .segments (ss ++ encodedTexts texts) } := by
  obtain ⟨init, last, hpath, hlast⟩ := exists_concat_of_root hroot hany hslash
  refine ⟨init ++ [last], hpath, ?_⟩
  rw [Client.urlFor, extendPath?_of_web hroot.scheme hpath, Option.getD_some,
    withoutEmptyEnd_concat_of_ne init hlast, ← pushSegments_withoutDots,
    pushSegments_of_kept (isKept_of_mem_withoutDots h) (by decide)
      (List.mem_append_right init (List.mem_singleton_self last)) hlast]
  rfl

/-- The URL of a resource holds the root and gives back the texts by which it was asked for. -/
structure Lossless (c : Client σ) (texts : List String) : Prop where
  scheme : (c.urlFor texts).scheme = c.root.scheme
  userinfo : (c.urlFor texts).userinfo = c.root.userinfo
  host : (c.urlFor texts).host = c.root.host
  port : (c.urlFor texts).port = c.root.port
  query : (c.urlFor texts).query = none
  fragment : (c.urlFor texts).fragment = none
  /-- Cut at its slashes the path has the pieces of the root, and then one piece for each text that
  is not passed over, which decodes to the text and holds nothing that could end a segment. -/
  pieces : ∃ encoded : List (List Char),
    Text.splitOn '/' (c.urlFor texts).pathText.toList =
        Text.splitOn '/' c.root.pathText.toList ++ encoded ∧
      (encoded.map fun piece => Text.decode? (percentDecode piece)) =
        (withoutDots texts).map some ∧
      ∀ piece ∈ encoded, ∀ ch ∈ ['/', '\\', '?', '#'], ch ∉ piece
  /-- Texts of which none is passed over can be read off the URL as it is written. -/
  injective : (∀ s ∈ texts, s ≠ "." ∧ s ≠ "..") → ∀ others : List String,
    (∀ s ∈ others, s ≠ "." ∧ s ≠ "..") →
    (∀ s ∈ others, ∀ ch ∈ s.toList, isDropped ch = false) →
    (c.urlFor others).text = (c.urlFor texts).text → others = texts

theorem pathText_urlFor (hroot : WebRoot tenant c.root) (hany : AnyRoot c.root)
    (hslash : c.root.text.toList.getLast? ≠ some '/') {texts : List String}
    (h : ∀ s ∈ texts, ∀ ch ∈ s.toList, isDropped ch = false) :
    (c.urlFor texts).pathText = c.root.pathText ++ segmentsText (encodedTexts texts) := by
  obtain ⟨ss, hpath, hurl⟩ := urlFor_of_undropped hroot hany hslash h
  rw [hurl]
  simp [Url.pathText, hroot.unguarded, hpath, segmentsText_append]

/-- A client of the web whose root does not end in a slash encodes without loss all texts that hold
no tab and no line end. -/
theorem urlFor_lossless {baseUrl : String} (hroot : Endpoint.root baseUrl tenant = .ok c.root)
    (hweb : IsWebScheme c.root.scheme) (hslash : c.root.text.toList.getLast? ≠ some '/')
    {texts : List String} (htexts : ∀ s ∈ texts, ∀ ch ∈ s.toList, isDropped ch = false) :
    Lossless c texts := by
  have hany := anyRoot_of_root hroot
  have hroot := webRoot_of_root hroot hweb
  obtain ⟨path, hurl⟩ := c.exists_urlFor_eq_path texts
  constructor
  case scheme => rw [hurl]
  case userinfo => rw [hurl]
  case host => rw [hurl]
  case port => rw [hurl]
  case query => rw [hurl, hany.query]
  case fragment => rw [hurl, hany.fragment]
  case pieces =>
    refine ⟨(encodedTexts texts).map String.toList, ?_, ?_, ?_⟩
    · rw [pathText_urlFor hroot hany hslash htexts, String.toList_append,
        splitOn_append_segmentsText _ (slashFree_of_mem_encodedTexts texts)]
    · rw [← segmentText?_encodedTexts htexts, List.map_map]
      rfl
    · intro piece hpiece ch hch
      obtain ⟨segment, hsegment, rfl⟩ := List.mem_map.mp hpiece
      obtain ⟨s, -, rfl⟩ := List.mem_map.mp hsegment
      simp only [List.mem_cons, List.not_mem_nil, or_false] at hch
      rcases hch with rfl | rfl | rfl | rfl <;>
        exact not_mem_segmentOf (by decide) (by decide) (by decide) s.toList
  case injective =>
    intro hdots others hotherDots hothers htext
    obtain ⟨other, hother⟩ := c.exists_urlFor_eq_path others
    have hpaths : (c.urlFor others).pathText = (c.urlFor texts).pathText := by
      rw [hother, hurl] at htext ⊢
      exact pathText_eq_of_text_eq htext
    rw [pathText_urlFor hroot hany hslash hothers, pathText_urlFor hroot hany hslash htexts,
      String.append_right_inj] at hpaths
    have hencoded := segmentsText_inj (slashFree_of_mem_encodedTexts others)
      (slashFree_of_mem_encodedTexts texts) hpaths
    have hdecoded := segmentText?_encodedTexts hothers
    rw [hencoded, segmentText?_encodedTexts htexts, withoutDots_eq_self hdots,
      withoutDots_eq_self hotherDots] at hdecoded
    exact (List.map_injective_iff.mpr (Option.some_injective String) hdecoded).symm

/-- A client without a tenant over a script. -/
def untenantedClient : Client Script where
  root := ⟨"https", "", some "[::1]", none, false, .segments ["api", "v1"], none, none⟩
  tenant := none
  credentials := none
  transport := Script.transport
  requestMiddleware := []
  responseMiddleware := []

theorem urlFor_lossless_awkward :
    Endpoint.root "https://[::1]/" none = .ok untenantedClient.root ∧
      IsWebScheme untenantedClient.root.scheme ∧
      untenantedClient.root.text.toList.getLast? ≠ some '/' ∧
      (∀ s ∈ ["a/b\\c?d#e", "", "..", "%2e%2e", "é"], ∀ ch ∈ s.toList, isDropped ch = false) ∧
      Lossless untenantedClient ["a/b\\c?d#e", "", "..", "%2e%2e", "é"] := by
  have hroot : Endpoint.root "https://[::1]/" none = .ok untenantedClient.root := by rfl
  have hslash : untenantedClient.root.text.toList.getLast? ≠ some '/' := by decide +kernel
  have htexts : ∀ s ∈ ["a/b\\c?d#e", "", "..", "%2e%2e", "é"], ∀ ch ∈ s.toList,
      isDropped ch = false := by simp [isDropped]
  exact ⟨hroot, by decide, hslash, htexts, urlFor_lossless hroot (by decide) hslash htexts⟩

example : (untenantedClient.urlFor ["a/b\\c?d#e", "", "..", "%2e%2e", "é"]).text =
    "https://[::1]/api/v1/a%2Fb%5Cc%3Fd%23e//%252e%252e/%C3%A9" := by
  decide +kernel

end Endpoint

end PlatformLink
