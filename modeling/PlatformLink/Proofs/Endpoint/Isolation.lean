import PlatformLink.Proofs.Endpoint.Root
import PlatformLink.Proofs.Web.Segment

/-!
# Isolation of tenants

When the root of a tenant belongs to that tenant alone. Validation refuses blank names and slashes,
which the encoding would keep apart anyway, but it lets dot segments pass and characters that do not
count. A path keeps neither, so roots tell tenants apart exactly as far as their names are kept.
-/

namespace PlatformLink

open Web

namespace Tenant

/-- A tenant that validation lets pass. -/
def Accepted (t : Tenant) : Prop :=
  Tenant.new t.organization t.environment = .ok t

/-- A tenant whose names a path keeps. -/
structure Kept (t : Tenant) : Prop where
  organization : IsKept t.organization
  environment : IsKept t.environment

theorem readSegment_eq_ok_iff (subject s r : String) :
    readSegment subject s = .ok r ↔ (Text.isBlank s = false ∧ '/' ∉ s.toList) ∧ s = r := by
  rw [readSegment, mapError_eq_ok_iff, bind_eq_ok_iff]
  simp only [Validation.notBlank, Validation.noSlash, Validation.ensure_eq_ok_iff,
    Bool.not_eq_true', List.contains_eq_mem, decide_eq_false_iff_not]
  constructor
  · rintro ⟨_, ⟨hblank, rfl⟩, hslash, rfl⟩
    exact ⟨⟨hblank, hslash⟩, rfl⟩
  · rintro ⟨⟨hblank, hslash⟩, rfl⟩
    exact ⟨s, ⟨hblank, rfl⟩, hslash, rfl⟩

theorem accepted_iff (t : Tenant) :
    t.Accepted ↔ (Text.isBlank t.organization = false ∧ '/' ∉ t.organization.toList) ∧
      (Text.isBlank t.environment = false ∧ '/' ∉ t.environment.toList) := by
  obtain ⟨o, e⟩ := t
  rw [Accepted, Tenant.new, bind_eq_ok_iff]
  simp only [bind_eq_ok_iff, readSegment_eq_ok_iff]
  constructor
  · rintro ⟨_, ⟨ho, -⟩, _, ⟨he, -⟩, -⟩
    exact ⟨ho, he⟩
  · rintro ⟨ho, he⟩
    exact ⟨o, ⟨ho, rfl⟩, e, ⟨he, rfl⟩, rfl⟩

/-- A twin of a name that passes validation passes as well. -/
theorem passes_twin {s : String} (h : Text.isBlank s = false ∧ '/' ∉ s.toList) :
    Text.isBlank (twin s) = false ∧ '/' ∉ (twin s).toList := by
  obtain ⟨hblank, hslash⟩ := h
  refine ⟨(isBlank_twin s).trans hblank, ?_⟩
  unfold twin
  split
  next => decide
  next =>
    split
    next => decide
    next => simp [hslash]

end Tenant

namespace Endpoint

/-! ## What a tenant adds -/

theorem behindApi_none : behindApi none = ["v1"] := rfl

theorem behindApi_some (t : Tenant) :
    behindApi (some t) = pushBehind .specialSegment
      (pushBehind .specialSegment ["v1"] t.organization) t.environment := rfl

theorem behindApi_of_kept {t : Tenant} (h : t.Kept) :
    behindApi (some t) = ["v1", segmentOf .specialSegment t.organization.toList,
      segmentOf .specialSegment t.environment.toList] := by
  rw [behindApi_some, h.organization.pushBehind_eq (by decide),
    h.environment.pushBehind_eq (by decide)]
  rfl

theorem eq_of_behindApi_eq {t t' : Tenant} (h : t.Kept) (h' : t'.Kept)
    (heq : behindApi (some t) = behindApi (some t')) : t = t' := by
  rw [behindApi_of_kept h, behindApi_of_kept h'] at heq
  simp only [List.cons.injEq, true_and, and_true] at heq
  have ho := h.organization.eq_of_segmentOf h'.organization (by decide) heq.1
  have he := h.environment.eq_of_segmentOf h'.environment (by decide) heq.2
  obtain ⟨o, e⟩ := t
  obtain ⟨o', e'⟩ := t'
  exact congrArg₂ Tenant.mk ho he

/-- Where the segments of a tenant decode to its names, the names were kept. -/
theorem kept_of_behindApi {t : Tenant} {a b : String}
    (h : behindApi (some t) = ["v1", a, b]) (ha : segmentText? a = some t.organization)
    (hb : segmentText? b = some t.environment) : t.Kept := by
  have hfirst := pushed_pushBehind ["v1"] t.organization
  have hsecond : Pushed (pushBehind .specialSegment ["v1"] t.organization) t.environment
      (["v1", a] ++ [b]) := by
    have hpushed := pushed_pushBehind (pushBehind .specialSegment ["v1"] t.organization)
      t.environment
    rw [← behindApi_some, h] at hpushed
    exact hpushed
  rcases hsecond.kept hb with hskipped | ⟨hpath, he⟩
  · have hlength := hfirst.length_le
    rw [hskipped] at hlength
    exact absurd hlength (by simp)
  · rw [hpath] at hfirst
    have hfirst : Pushed ["v1"] t.organization (["v1"] ++ [a]) := hfirst
    rcases hfirst.kept ha with hskipped | ⟨-, ho⟩
    · exact absurd (congrArg List.length hskipped) (by simp)
    · exact ⟨ho, he⟩

/-- Only a tenant of which nothing is kept adds nothing. -/
theorem behindApi_eq_none_iff (t : Tenant) :
    behindApi (some t) = behindApi none ↔
      (t.organization = "." ∨ t.organization = "..") ∧
        (t.environment = "." ∨ t.environment = "..") := by
  constructor
  · intro h
    have hne : pushBehind .specialSegment ["v1"] t.organization ≠ [] :=
      pushBehind_ne_nil .specialSegment (List.cons_ne_nil _ _) t.organization
    have hfirst := pushed_pushBehind ["v1"] t.organization
    have hsecond := pushed_pushBehind (pushBehind .specialSegment ["v1"] t.organization)
      t.environment
    rw [← behindApi_some, h, behindApi_none] at hsecond
    obtain ⟨hpath, he⟩ := hsecond.skipped_of_singleton hne (by decide)
    rw [hpath] at hfirst
    exact ⟨(hfirst.skipped_of_singleton (List.cons_ne_nil _ _) (by decide)).2, he⟩
  · rintro ⟨ho, he⟩
    rw [behindApi_some, pushBehind, pushBehind, if_pos ho, if_pos he, behindApi_none]

theorem behindApi_twin (t : Tenant) :
    behindApi (some ⟨twin t.organization, t.environment⟩) = behindApi (some t) := by
  rw [behindApi_some, behindApi_some, pushBehind_twin]

/-! ## Roots as texts -/

/-- The root over a base with these segments. -/
def rootOver (base : Url) (ss : List String) (tenant : Option Tenant) : Url :=
  { base with query := none, fragment := none, path := .segments (rootSegments ss tenant) }

theorem mem_of_mem_front {ss : List String} {s : String} (h : s ∈ front ss) : s ∈ ss := by
  have hopen : s ∈ withoutEmptyEnd ss := by
    rw [front, openEnd] at h
    split at h
    next => cases h
    next => exact h
  rw [withoutEmptyEnd] at hopen
  split at hopen
  next => exact List.dropLast_subset ss hopen
  next => exact hopen

theorem slashFree_of_mem_rootSegments {ss : List String} (hss : ∀ s ∈ ss, SlashFree s)
    (tenant : Option Tenant) : ∀ s ∈ rootSegments ss tenant, SlashFree s := by
  intro s hs
  rcases List.mem_append.mp hs with hs | hs
  · rcases List.mem_append.mp hs with hs | hs
    · exact hss s (mem_of_mem_front hs)
    · rw [List.mem_singleton.mp hs]
      exact plain_api.slashFree
  · exact slashFree_of_mem_behindApi tenant s hs

theorem pathText_rootOver {base : Url} (hguarded : base.guarded = false) (ss : List String)
    (tenant : Option Tenant) :
    (rootOver base ss tenant).pathText = segmentsText (rootSegments ss tenant) := by
  simp [Url.pathText, rootOver, hguarded]

/-- Roots over one base, or over bases that differ in their paths, agree as far as their segments
do. -/
theorem text_rootOver_eq_iff_segments {base : Url} (hguarded : base.guarded = false)
    {ss ss' : List String} (hss : ∀ s ∈ ss, SlashFree s) (hss' : ∀ s ∈ ss', SlashFree s)
    (tenant tenant' : Option Tenant) :
    (rootOver base ss tenant).text = (rootOver base ss' tenant').text ↔
      rootSegments ss tenant = rootSegments ss' tenant' := by
  constructor
  · intro h
    have hpath : (rootOver base ss tenant).pathText = (rootOver base ss' tenant').pathText :=
      pathText_eq_of_text_eq (u := { base with query := none, fragment := none }) h
    rw [pathText_rootOver hguarded, pathText_rootOver hguarded] at hpath
    exact segmentsText_inj (slashFree_of_mem_rootSegments hss tenant)
      (slashFree_of_mem_rootSegments hss' tenant') hpath
  · intro h
    rw [rootOver, rootOver, h]

/-- Roots over one base agree as far as their tenants add the same. -/
theorem text_rootOver_eq_iff {base : Url} (hguarded : base.guarded = false) {ss : List String}
    (hss : ∀ s ∈ ss, SlashFree s) (tenant tenant' : Option Tenant) :
    (rootOver base ss tenant).text = (rootOver base ss tenant').text ↔
      behindApi tenant = behindApi tenant' := by
  rw [text_rootOver_eq_iff_segments hguarded hss hss, rootSegments, rootSegments,
    List.append_cancel_left_eq]

/-- The path of a base, then the API version and the names of a tenant, each as one segment. -/
def IsTenantPath (base : Url) (t : Tenant) (root : Url) : Prop :=
  ∃ a b, SlashFree a ∧ SlashFree b ∧
    segmentText? a = some t.organization ∧ segmentText? b = some t.environment ∧
    root.pathText = withoutSlash base.pathText ++ "/api/v1/" ++ a ++ "/" ++ b

theorem segmentsText_tenant (ss : List String) (a b : String) :
    segmentsText (ss ++ ["api", "v1", a, b]) =
      segmentsText ss ++ "/api/v1/" ++ a ++ "/" ++ b := by
  refine String.toList_injective ?_
  rw [segmentsText_append]
  simp [toList_segmentsText]

theorem slashFree_tenant {ss : List String} (hss : ∀ s ∈ ss, SlashFree s) {a b : String}
    (ha : SlashFree a) (hb : SlashFree b) : ∀ s ∈ ss ++ ["api", "v1", a, b], SlashFree s := by
  intro s hs
  simp only [List.mem_append, List.mem_cons, List.not_mem_nil, or_false] at hs
  rcases hs with hs | rfl | rfl | rfl | rfl
  · exact hss s hs
  · exact plain_api.slashFree
  · exact plain_v1.slashFree
  · exact ha
  · exact hb

theorem isTenantPath_iff {base : Url} {ss : List String} (hguarded : base.guarded = false)
    (hpath : base.path = .segments ss) (hss : ∀ s ∈ ss, SlashFree s) (t : Tenant) :
    IsTenantPath base t (rootOver base ss (some t)) ↔ t.Kept ∧ base.pathText ≠ "//" := by
  have hbase : base.pathText = segmentsText ss := by
    simp [Url.pathText, hguarded, hpath]
  have hdouble : base.pathText = "//" ↔ ss = ["", ""] := by
    rw [hbase]
    constructor
    · intro h
      exact segmentsText_inj hss (by simp [slashFree_empty]) h
    · rintro rfl
      rfl
  have hlast : ∀ s ∈ ss.getLast?, SlashFree s := by
    intro s hs
    exact hss s (List.mem_of_getLast? hs)
  constructor
  · rintro ⟨a, b, ha, hb, hdecodeA, hdecodeB, htext⟩
    rw [pathText_rootOver hguarded, hbase] at htext
    by_cases hslashes : ss = ["", ""]
    · -- Of two slashes the root keeps none, where the path asked for begins with one.
      subst hslashes
      have hempty : ∀ s ∈ [""], SlashFree s := by simp [slashFree_empty]
      have hone : withoutSlash (segmentsText ["", ""]) = segmentsText [""] :=
        withoutSlash_segmentsText_empty [""]
      rw [hone, ← segmentsText_tenant] at htext
      have hsegments : "api" :: behindApi (some t) = "" :: ["api", "v1", a, b] :=
        segmentsText_inj (slashFree_of_mem_rootSegments hss (some t))
          (slashFree_tenant hempty ha hb) htext
      exact absurd (List.cons.inj hsegments).1 (by decide)
    · rw [withoutSlash_segmentsText hlast hslashes, ← segmentsText_tenant] at htext
      have hsegments := segmentsText_inj (slashFree_of_mem_rootSegments hss (some t))
        (slashFree_tenant (fun s hs => hss s (mem_of_mem_front hs)) ha hb) htext
      rw [rootSegments, List.append_assoc] at hsegments
      have hbehind : behindApi (some t) = ["v1", a, b] :=
        (List.cons.inj (List.append_cancel_left hsegments)).2
      exact ⟨kept_of_behindApi hbehind hdecodeA hdecodeB, mt hdouble.mp hslashes⟩
  · rintro ⟨hkept, hne⟩
    have hslashes : ss ≠ ["", ""] := mt hdouble.mpr hne
    refine ⟨segmentOf .specialSegment t.organization.toList,
      segmentOf .specialSegment t.environment.toList, slashFree_segmentOf (by decide) _,
      slashFree_segmentOf (by decide) _, hkept.organization.segmentText? (by decide),
      hkept.environment.segmentText? (by decide), ?_⟩
    rw [pathText_rootOver hguarded, hbase, withoutSlash_segmentsText hlast hslashes,
      ← segmentsText_tenant, rootSegments, behindApi_of_kept hkept, List.append_assoc]
    rfl

/-- How far the roots over a base tell tenants apart. -/
structure TellsApart (base : Url) (rootOf : Option Tenant → Url) : Prop where
  own_path : ∀ t, IsTenantPath base t (rootOf (some t)) ↔ t.Kept ∧ base.pathText ≠ "//"
  apart : ∀ t t', t.Kept → t'.Kept →
    (rootOf (some t)).text = (rootOf (some t')).text → t = t'
  shared : ∀ t, t.Accepted →
    ∃ t', t'.Accepted ∧ t' ≠ t ∧ (rootOf (some t')).text = (rootOf (some t)).text
  untenanted : ∀ t, (rootOf (some t)).text = (rootOf none).text ↔
    (t.organization = "." ∨ t.organization = "..") ∧
      (t.environment = "." ∨ t.environment = "..")

/-- Over every base of the web each tenant has a root. Its path names the tenant exactly where the
names are kept and the base is not two slashes alone; such tenants have different roots. No root
belongs to one accepted tenant alone, though, since a character that does not count changes the
tenant and not its root, and tenants of dots share the root that belongs to no tenant. -/
theorem root_tellsApart {baseUrl : String} {base : Url}
    (hbase : Url.parse (Text.trim baseUrl) = .ok base) (hweb : IsWebScheme base.scheme) :
    ∃ rootOf : Option Tenant → Url, (∀ tenant, root baseUrl tenant = .ok (rootOf tenant)) ∧
      TellsApart base rootOf := by
  obtain ⟨-, -, hguarded, ss, hpath, hss⟩ := Url.webUrl_parse hbase hweb
  refine ⟨rootOver base ss, fun tenant => root_eq hbase hweb hpath tenant, ?_, ?_, ?_, ?_⟩
  · exact isTenantPath_iff hguarded hpath hss
  · intro t t' h h' htext
    exact eq_of_behindApi_eq h h' ((text_rootOver_eq_iff hguarded hss _ _).mp htext)
  · intro t haccepted
    obtain ⟨ho, he⟩ := t.accepted_iff.mp haccepted
    refine ⟨⟨twin t.organization, t.environment⟩, ?_, ?_, ?_⟩
    · exact (Tenant.accepted_iff _).mpr ⟨Tenant.passes_twin ho, he⟩
    · intro heq
      exact twin_ne t.organization (congrArg Tenant.organization heq)
    · exact (text_rootOver_eq_iff hguarded hss _ _).mpr (behindApi_twin t)
  · intro t
    rw [text_rootOver_eq_iff hguarded hss, behindApi_eq_none_iff]

theorem root_tellsApart_loopback :
    ∃ rootOf : Option Tenant → Url,
      (∀ tenant, root "https://[::1]/base/" tenant = .ok (rootOf tenant)) ∧
      TellsApart ⟨"https", "", some "[::1]", none, false, .segments ["base", ""], none, none⟩
        rootOf :=
  root_tellsApart (by rfl) (by decide)

/-- Two tenants that validation lets pass and the API version without a tenant have one root. -/
theorem dots_share_root :
    Tenant.Accepted ⟨".", ".."⟩ ∧ Tenant.Accepted ⟨"..", "."⟩ ∧
      root "https://[::1]" (some ⟨".", ".."⟩) = root "https://[::1]" none ∧
      root "https://[::1]" (some ⟨"..", "."⟩) = root "https://[::1]" none := by
  refine ⟨?_, ?_, ?_, ?_⟩
  · exact (Tenant.accepted_iff _).mpr (by decide)
  · exact (Tenant.accepted_iff _).mpr (by decide)
  · rfl
  · rfl

end Endpoint

end PlatformLink
