import PlatformLink.Endpoint.Root
import PlatformLink.Proofs.Web.WebUrl

/-!
# The path of an endpoint root

Under a scheme of the web an endpoint root is the base URL with other segments: those before the
slash at the end of its path, then the API version, then what the tenant adds. The first segment of
the API version stays whatever the tenant is called, since dot segments reach no further back than
the second one.
-/

namespace PlatformLink.Endpoint

open Web

theorem plain_api : Plain "api" := by
  decide

theorem plain_v1 : Plain "v1" := by
  decide

def tenantTexts : Option Tenant → List String
  | none => []
  | some t => [t.organization, t.environment]

theorem rootTexts_eq (tenant : Option Tenant) :
    rootTexts tenant = ["api", "v1"] ++ tenantTexts tenant := by
  cases tenant <;> rfl

/-- The segments of a root behind the first of the API version. -/
def behindApi (tenant : Option Tenant) : List String :=
  (tenantTexts tenant).foldl (pushBehind .specialSegment) ["v1"]

theorem behindApi_ne_nil (tenant : Option Tenant) : behindApi tenant ≠ [] :=
  foldl_pushBehind_ne_nil .specialSegment (List.cons_ne_nil _ _) (tenantTexts tenant)

theorem slashFree_of_mem_behindApi (tenant : Option Tenant) :
    ∀ s ∈ behindApi tenant, SlashFree s := by
  refine slashFree_of_mem_foldl (by decide) ?_ (tenantTexts tenant)
  intro s hs
  rw [List.mem_singleton.mp hs]
  exact plain_v1.slashFree

theorem pushSegments_rootTexts (ss : List String) (tenant : Option Tenant) :
    pushSegments false .specialSegment (withoutEmptyEnd ss) (rootTexts tenant) =
      front ss ++ ["api"] ++ behindApi tenant := by
  have hv1 : pushSegment false .specialSegment (front ss ++ ["api"]) "v1" =
      front ss ++ ["api"] ++ ["v1"] := by
    have hopen : openEnd (front ss ++ ["api"]) = front ss ++ ["api"] := by
      refine if_neg fun h => ?_
      have hlast := congrArg List.getLast? h
      simp at hlast
    rw [plain_v1.pushSegment_eq, hopen]
  rw [rootTexts_eq, pushSegments_append, pushSegments_cons, pushSegments_cons, pushSegments_nil,
    plain_api.pushSegment_eq, ← front, hv1,
    pushSegments_behind .specialSegment (List.append_ne_nil_of_right_ne_nil _
      (List.cons_ne_nil _ _)) (List.cons_ne_nil _ _), behindApi]

/-- The segments of a root over a base with these segments. -/
def rootSegments (ss : List String) (tenant : Option Tenant) : List String :=
  front ss ++ ["api"] ++ behindApi tenant

theorem api_mem_rootSegments (ss : List String) (tenant : Option Tenant) :
    "api" ∈ rootSegments ss tenant := by
  simp [rootSegments]

theorem front_rootSegments_ne_nil (ss : List String) (tenant : Option Tenant) :
    front (rootSegments ss tenant) ≠ [] :=
  List.ne_nil_of_mem (mem_front (api_mem_rootSegments ss tenant) (by decide))

/-- The path of a root without its slash is the text of its front. -/
theorem withoutSlash_rootSegments (ss : List String) (tenant : Option Tenant) :
    withoutSlash (segmentsText (rootSegments ss tenant)) =
      segmentsText (front (rootSegments ss tenant)) := by
  refine withoutSlash_segmentsText ?_ ?_
  · intro last hlast
    obtain ⟨init, final, hbehind⟩ :=
      (List.eq_nil_or_concat (behindApi tenant)).resolve_left (behindApi_ne_nil tenant)
    rw [List.concat_eq_append] at hbehind
    rw [rootSegments, hbehind, ← List.append_assoc, List.getLast?_concat] at hlast
    refine slashFree_of_mem_behindApi tenant last ?_
    rw [hbehind, ← Option.some.inj hlast]
    simp
  · intro h
    have hapi := api_mem_rootSegments ss tenant
    rw [h] at hapi
    exact absurd hapi (by decide)

theorem extendPath?_of_web {u : Url} {ss : List String} (hweb : IsWebScheme u.scheme)
    (hpath : u.path = .segments ss) (texts : List String) :
    u.extendPath? texts = some { u with
      path := .segments (pushSegments false .specialSegment (withoutEmptyEnd ss) texts) } := by
  have hfile : (u.scheme == "file") = false := beq_eq_false_iff_ne.mpr hweb.ne_file
  have hpart : u.segmentPart = .specialSegment := by
    rw [Url.segmentPart, if_pos hweb.isSpecial]
  simp only [Url.extendPath?, hpath, hfile, hpart]

/-- Every base of the web has a root for every tenant. -/
theorem root_eq {baseUrl : String} {base : Url} {ss : List String}
    (hbase : Url.parse (Text.trim baseUrl) = .ok base) (hweb : IsWebScheme base.scheme)
    (hpath : base.path = .segments ss) (tenant : Option Tenant) :
    root baseUrl tenant = .ok { base with
      query := none
      fragment := none
      path := .segments (rootSegments ss tenant) } := by
  have hextend := extendPath?_of_web (u := { base with query := none, fragment := none })
    hweb hpath (rootTexts tenant)
  rw [pushSegments_rootTexts] at hextend
  rw [root, hbase]
  simp only [ok_mapError, ok_bind, hextend]
  rfl

/-- What is known of a root under a scheme of the web. -/
structure WebRoot (tenant : Option Tenant) (u : Url) : Prop where
  scheme : IsWebScheme u.scheme
  unguarded : u.guarded = false
  fragment : u.fragment = none
  segments : ∃ ss, u.path = .segments (rootSegments ss tenant)

theorem webRoot_of_root {baseUrl : String} {tenant : Option Tenant} {u : Url}
    (h : root baseUrl tenant = .ok u) (hweb : IsWebScheme u.scheme) : WebRoot tenant u := by
  obtain ⟨base, hbase, hu⟩ := bind_eq_ok_iff.mp h
  rw [mapError_eq_ok_iff] at hbase
  have hscheme : u.scheme = base.scheme := by
    cases hextend : ({ base with query := none, fragment := none } : Url).extendPath?
        (rootTexts tenant) with
    | none =>
      rw [hextend] at hu
      cases hu
    | some v =>
      rw [hextend] at hu
      rw [← Except.ok.inj hu]
      unfold Url.extendPath? at hextend
      split at hextend
      next => cases hextend
      next => rw [← Option.some.inj hextend]
  rw [hscheme] at hweb
  obtain ⟨-, -, hguarded, ss, hpath, -⟩ := Url.webUrl_parse hbase hweb
  rw [root_eq hbase hweb hpath tenant] at h
  rw [← Except.ok.inj h]
  exact ⟨hweb, hguarded, rfl, ss, rfl⟩

end PlatformLink.Endpoint
