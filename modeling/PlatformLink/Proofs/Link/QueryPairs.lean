import PlatformLink.Proofs.Endpoint.Sending
import PlatformLink.Proofs.Link.Address
import PlatformLink.Proofs.Web.FormPairs

/-!
# Queries of requests

A request for a resource is given pairs one after the other. Its URL stays that of the resource but
for the query, from which the pairs are read in their order as they were given: no name and no value
adds a pair, hides one or reaches beyond the query. The log service asks for the entries below a
parent with one such pair.
-/

namespace PlatformLink

open Endpoint
open Web

namespace Web

/-- The query of a URL as it is written. -/
def Url.queryText (u : Url) : String :=
  (u.query.map ("?" ++ ·)).getD ""

/-- Without a fragment the query ends the text of a URL. -/
theorem Url.text_eq_append_queryText {u : Url} (h : u.fragment = none) :
    u.text = { u with query := none }.text ++ u.queryText := by
  obtain ⟨scheme, userinfo, host, port, guarded, path, query, fragment⟩ := u
  subst h
  cases query <;>
    simp [Url.text, Url.queryText, Url.authorityText, Url.pathText, String.append_assoc]

theorem Url.query_eq_of_queryText_eq {u v : Url} (h : u.queryText = v.queryText) :
    u.query = v.query := by
  unfold Url.queryText at h
  have hmark : ∀ q, "?" ++ q ≠ "" := by simp
  cases hu : u.query <;> cases hv : v.query <;> rw [hu, hv] at h
  case none.some q => exact absurd h.symm (hmark q)
  case some.none q => exact absurd h (hmark q)
  case some.some p q => exact congrArg some ((String.append_right_inj "?").mp h)

/-- The request with pairs added to its query, one after the other. -/
def Request.withPairs (r : Request) (pairs : List (String × String)) : Request :=
  pairs.foldl (fun r pair => r.query pair.1 pair.2) r

namespace Request

variable (r : Request)

theorem withPairs_concat (pairs : List (String × String)) (pair : String × String) :
    r.withPairs (pairs ++ [pair]) = (r.withPairs pairs).query pair.1 pair.2 :=
  List.foldl_concat ..

theorem pairs_withPairs (pairs : List (String × String)) :
    (r.withPairs pairs).url.pairs = r.url.pairs ++ pairs := by
  induction pairs using List.reverseRecOn with
  | nil => exact (List.append_nil _).symm
  | append_singleton pairs pair ih =>
    rw [withPairs_concat, Request.query, pairs_appendQuery, ih, List.append_assoc]

/-- Pairs touch nothing but the query. -/
theorem exists_withPairs_eq_query (pairs : List (String × String)) :
    ∃ query, r.withPairs pairs = { r with url := { r.url with query := query } } := by
  induction pairs using List.reverseRecOn with
  | nil => exact ⟨r.url.query, rfl⟩
  | append_singleton pairs pair ih =>
    obtain ⟨query, hpairs⟩ := ih
    rw [withPairs_concat, hpairs]
    exact ⟨_, rfl⟩

theorem isQueryChar_withPairs {r : Request} (h : r.url.query = none)
    (pairs : List (String × String)) :
    ∀ q ∈ (r.withPairs pairs).url.query, ∀ ch ∈ q.toList, IsQueryChar ch := by
  induction pairs using List.reverseRecOn with
  | nil =>
    intro q hq
    rw [show r.withPairs [] = r from rfl, h] at hq
    cases hq
  | append_singleton pairs pair ih =>
    intro q hq
    rw [withPairs_concat] at hq
    rw [← Option.some.inj hq]
    exact isQueryChar_appendPair ih pair.1 pair.2

end Request

end Web

section

variable {σ : Type} {c : Client σ}

/-- The URL of a resource with pairs for its query. -/
structure CarriesPairs (c : Client σ) (segments : List String) (pairs : List (String × String))
    (u : Url) : Prop where
  pairs : u.pairs = pairs
  resource : { u with query := none } = c.urlFor segments
  fragment : u.fragment = none
  text : u.text = (c.urlFor segments).text ++ u.queryText
  /-- Of what may stand in the query nothing ends it. -/
  plain : ∀ q ∈ u.query, ∀ ch ∈ q.toList, IsQueryChar ch

theorem carriesPairs_withPairs (hroot : AnyRoot c.root) (method : Method) (segments : List String)
    (pairs : List (String × String)) :
    CarriesPairs c segments pairs ((c.request method segments).withPairs pairs).url := by
  have hquery : (c.urlFor segments).query = none :=
    (c.query_urlFor segments).trans hroot.query
  have hfragment : (c.urlFor segments).fragment = none := by
    obtain ⟨path, hpath⟩ := c.exists_urlFor_eq_path segments
    rw [hpath, hroot.fragment]
  have hpairs : ((c.request method segments).withPairs pairs).url.pairs = pairs := by
    rw [Request.pairs_withPairs, Url.pairs, show (c.request method segments).url.query = none from
      hquery]
    rfl
  obtain ⟨query, hwhole⟩ := (c.request method segments).exists_withPairs_eq_query pairs
  have hurl : ((c.request method segments).withPairs pairs).url =
      { c.urlFor segments with query := query } := congrArg Request.url hwhole
  have hrest : { ((c.request method segments).withPairs pairs).url with query := none } =
      c.urlFor segments := by
    rw [hurl, ← hquery]
  have hnofragment : ((c.request method segments).withPairs pairs).url.fragment = none := by
    rw [hurl, hfragment]
  refine ⟨hpairs, hrest, hnofragment, ?_, Request.isQueryChar_withPairs hquery pairs⟩
  rw [Url.text_eq_append_queryText hnofragment, hrest]

/-- Texts of one resource with different pairs differ. -/
theorem CarriesPairs.eq_of_text_eq {segments : List String} {ps qs : List (String × String)}
    {u v : Url} (hu : CarriesPairs c segments ps u) (hv : CarriesPairs c segments qs v)
    (h : u.text = v.text) : ps = qs := by
  rw [hu.text, hv.text, String.append_right_inj] at h
  rw [← hu.pairs, ← hv.pairs, Url.pairs, Url.pairs, Url.query_eq_of_queryText_eq h]

theorem Endpoint.Client.Sends.url_eq {r sent : Request} (h : c.Sends r sent)
    (hms : ∀ m ∈ c.requestMiddleware, KeepsUrl m) : sent.url = r.url := by
  rw [url_passThrough hms h.2, Client.url_prepared]

/-- A log is read with one request, of which the parent is all the query. -/
theorem sendsOne_readByParent (c : Client σ) {id : String} (h : Text.isBlank id = false) :
    SendsOne (c.Sends ((c.request .get ["Logs"]).withPairs [("parentId", id)]))
      (∃ sent, c.Sends ((c.request .get ["Logs"]).withPairs [("parentId", id)]) sent)
      ((Workflow.Remote.log c.recorded).readByParent id)
      ((Workflow.Remote.log c).readByParent id) := by
  apply SendsOne.ofOutcome_bind
  · intro _
    exact ⟨(), checkId_eq_ok h .log "parent id"⟩
  · intro _ _
    exact SendsOne.bind_silent (c.sendsOne_sends _) fun _ => Records.ofOutcome _

/-- How a client asks with pairs. -/
structure QueryRoundTrip (c : Client σ) : Prop where
  carried : ∀ method segments pairs,
    CarriesPairs c segments pairs ((c.request method segments).withPairs pairs).url
  told : ∀ method segments pairs others,
    ((c.request method segments).withPairs others).url.text =
      ((c.request method segments).withPairs pairs).url.text → others = pairs
  /-- What reaches the transport has the same URL, unless middleware writes another. -/
  sent : (∀ m ∈ c.requestMiddleware, KeepsUrl m) → ∀ r sent, c.Sends r sent → sent.url = r.url
  logs : ∀ id, Text.isBlank id = false → ∃ r : Request,
    CarriesPairs c ["Logs"] [("parentId", id)] r.url ∧
      SendsOne (c.Sends r) (∃ sent, c.Sends r sent)
        ((Workflow.Remote.log c.recorded).readByParent id)
        ((Workflow.Remote.log c).readByParent id)

/-- Whatever client asks for whatever resource with whatever pairs: the pairs are read from the
query as they were given, in their order, and the rest of the URL is that of the resource. -/
theorem query_roundTrip {baseUrl : String} {tenant : Option Tenant}
    (hroot : Endpoint.root baseUrl tenant = .ok c.root) : QueryRoundTrip c := by
  have hany := anyRoot_of_root hroot
  constructor
  case carried => exact carriesPairs_withPairs hany
  case told =>
    intro method segments pairs others h
    exact (carriesPairs_withPairs hany method segments others).eq_of_text_eq
      (carriesPairs_withPairs hany method segments pairs) h
  case sent => exact fun hms r sent h => h.url_eq hms
  case logs =>
    intro id h
    exact ⟨_, carriesPairs_withPairs hany .get ["Logs"] [("parentId", id)],
      sendsOne_readByParent c h⟩

end

theorem query_roundTrip_tenant :
    Endpoint.root "https://[::1]" (some ⟨"acme", "prod"⟩) = .ok scriptedClient.root ∧
      QueryRoundTrip scriptedClient ∧
      ((scriptedClient.request .get ["Logs"]).withPairs
          [("a&b=c", ""), ("", "d#e+f"), ("é", "100% g")]).url.text =
        "https://[::1]/api/v1/acme/prod/Logs?a%26b%3Dc=&=d%23e%2Bf&%C3%A9=100%25+g" := by
  have hroot : Endpoint.root "https://[::1]" (some ⟨"acme", "prod"⟩) = .ok scriptedClient.root := by
    rfl
  exact ⟨hroot, query_roundTrip hroot, by decide +kernel⟩

end PlatformLink
