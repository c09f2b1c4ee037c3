import PlatformLink.Proofs.Endpoint.Isolation
import PlatformLink.Proofs.Web.FinalSlashes

/-!
# Slashes at the end of a base

A root stands over the front of the path of its base, from which one empty segment at the end is
taken. So one slash behind a base that ends in none is of no account, and where the path is only a
slash a second one neither. Every further slash is an empty segment of the root.
-/

namespace PlatformLink.Endpoint

open Web

/-- Roots of one tenant over bases that differ in their paths agree as far as the fronts do. -/
theorem rootSegments_eq_iff_front (ss ss' : List String) (tenant : Option Tenant) :
    rootSegments ss tenant = rootSegments ss' tenant ↔ front ss = front ss' := by
  rw [rootSegments, rootSegments, List.append_cancel_right_eq, List.append_cancel_right_eq]

/-! ## Bases with slashes -/

/-- A base of the web that ends in its path, with no blanks around it and no control at its end. -/
structure PathBase (baseUrl : String) (base : Url) : Prop where
  parsed : Url.parse baseUrl = .ok base
  scheme : IsWebScheme base.scheme
  trimmed : Text.trim baseUrl = baseUrl
  no_query : base.query = none
  no_fragment : base.fragment = none
  whole : ∀ c ∈ baseUrl.toList.getLast?, isControlOrSpace c = false

/-- Whether slashes behind a base are of no account: with the one in which it ends they are at most
one, or at most two if its path is a slash alone. -/
def DropsSlashes (baseUrl : String) (base : Url) (n : Nat) : Prop :=
  n = 0 ∨ n + (if endsInSlash baseUrl.toList then 1 else 0) ≤
    if base.path = .segments [""] then 2 else 1

instance (baseUrl : String) (base : Url) (n : Nat) : Decidable (DropsSlashes baseUrl base n) :=
  inferInstanceAs (Decidable (_ ∨ _))

namespace PathBase

variable {baseUrl : String} {base : Url}

theorem trim_slashes (h : PathBase baseUrl base) (n : Nat) :
    Text.trim (baseUrl ++ slashes n) = baseUrl ++ slashes n := by
  have hchars : Text.trimBoth Text.isBlankChar baseUrl.toList = baseUrl.toList := by
    rw [← String.toList_ofList (l := Text.trimBoth _ _)]
    exact congrArg String.toList h.trimmed
  have hslash : ∀ c ∈ List.replicate n '/', Text.isBlankChar c = false := fun c hc => by
    rw [List.eq_of_mem_replicate hc]
    decide
  rw [Text.trim, String.toList_append, slashes, String.toList_ofList,
    Text.trimBoth_append (Text.last_of_trimBoth_eq_self hchars) hslash, hchars,
    String.ofList_append, String.ofList_toList]

/-- The front of the path with slashes behind it is that of the path where they are dropped. -/
theorem exists_slashed (h : PathBase baseUrl base) :
    ∃ ss, base.path = .segments ss ∧ ∀ n, ∃ ss',
      Url.parse (Text.trim (baseUrl ++ slashes n)) = .ok { base with path := .segments ss' } ∧
        (front ss' = front ss ↔ DropsSlashes baseUrl base n) := by
  obtain ⟨ss, before, hpath, hfront, hnone, hslashes⟩ :=
    Url.parse_slashes h.parsed h.scheme h.no_query h.no_fragment h.whole
  refine ⟨ss, hpath, fun n => ?_⟩
  rw [h.trim_slashes]
  cases n with
  | zero =>
    have hempty : baseUrl ++ slashes 0 = baseUrl := String.append_empty
    refine ⟨ss, ?_, iff_of_true rfl (.inl rfl)⟩
    rw [hempty, h.parsed, ← hpath]
  | succ n =>
    refine ⟨_, hslashes n, ?_⟩
    have hlonely : base.path = .segments [""] ↔ before = [] := by
      rw [hpath, UrlPath.segments.injEq, hnone]
    have hconcat (k : Nat) : before ++ List.replicate (n + 1 + k) "" =
        before ++ List.replicate (n + k) "" ++ [""] := by
      rw [Nat.add_right_comm, List.replicate_succ', List.append_assoc]
    rw [hconcat, front_concat_empty_eq, hfront, openEnd_append_replicate_eq_iff, DropsSlashes,
      or_iff_right n.succ_ne_zero]
    simp only [hlonely]
    split_ifs <;> omega

end PathBase

/-- Slashes behind a base leave its roots as they are just where they are of no account. -/
theorem root_slashes_eq_iff {baseUrl : String} {base : Url} (h : PathBase baseUrl base) (n : Nat)
    (tenant : Option Tenant) :
    ∃ u v, root baseUrl tenant = .ok u ∧ root (baseUrl ++ slashes n) tenant = .ok v ∧
      (v = u ↔ DropsSlashes baseUrl base n) ∧ (v.text = u.text ↔ DropsSlashes baseUrl base n) := by
  obtain ⟨ss, hpath, hslashed⟩ := h.exists_slashed
  obtain ⟨ss', hparse, hdrops⟩ := hslashed n
  have hbase : Url.parse (Text.trim baseUrl) = .ok base := by
    rw [h.trimmed]
    exact h.parsed
  obtain ⟨-, -, hguarded, ts, hts, hss⟩ := Url.webUrl_parse hbase h.scheme
  obtain ⟨-, -, -, ts', hts', hss'⟩ := Url.webUrl_parse hparse h.scheme
  obtain rfl := UrlPath.segments.inj (hpath.symm.trans hts)
  obtain rfl := UrlPath.segments.inj hts'
  have hsegments := (rootSegments_eq_iff_front ss' ss tenant).trans hdrops
  have htext := (text_rootOver_eq_iff_segments hguarded hss' hss tenant tenant).trans hsegments
  refine ⟨rootOver base ss tenant, rootOver base ss' tenant, root_eq hbase h.scheme hpath tenant,
    root_eq hparse h.scheme rfl tenant, ⟨fun heq => htext.mp (congrArg Url.text heq), ?_⟩, htext⟩
  intro hdropped
  rw [rootOver, rootOver, hsegments.mpr hdropped]

/-- A control at the end of a base is not read, but one before a slash is. -/
example :
    (root "https://[::1]/a\x01" none).map (·.text) = .ok "https://[::1]/a/api/v1" ∧
      (root ("https://[::1]/a\x01" ++ slashes 1) none).map (·.text) =
        .ok "https://[::1]/a%01/api/v1" := by
  constructor <;> decide +kernel

theorem root_slashes_eq_iff_loopback :
    PathBase "https://[::1]/capability" ⟨"https", "", some "[::1]", none, false,
        .segments ["capability"], none, none⟩ ∧
      ∃ u v, root "https://[::1]/capability" none = .ok u ∧
        root ("https://[::1]/capability" ++ slashes 1) none = .ok v ∧
        (v = u ↔ DropsSlashes "https://[::1]/capability" ⟨"https", "", some "[::1]", none, false,
          .segments ["capability"], none, none⟩ 1) ∧
        (v.text = u.text ↔ DropsSlashes "https://[::1]/capability" ⟨"https", "", some "[::1]", none,
          false, .segments ["capability"], none, none⟩ 1) := by
  have hbase : PathBase "https://[::1]/capability" ⟨"https", "", some "[::1]", none, false,
      .segments ["capability"], none, none⟩ := by
    refine ⟨by rfl, by decide, by decide, rfl, rfl, ?_⟩
    have hlast : "https://[::1]/capability".toList.getLast? = some 'y' := by decide
    rw [hlast]
    rintro c ⟨⟩
    decide
  exact ⟨hbase, root_slashes_eq_iff hbase 1 none⟩

/-- Of two slashes one stays. -/
theorem two_slashes_count :
    (root "https://[::1]/capability" none).map (·.text) = .ok "https://[::1]/capability/api/v1" ∧
      (root ("https://[::1]/capability" ++ slashes 2) none).map (·.text) =
        .ok "https://[::1]/capability//api/v1" := by
  constructor <;> decide +kernel

end PlatformLink.Endpoint
