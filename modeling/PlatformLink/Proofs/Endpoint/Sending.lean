import PlatformLink.Proofs.Endpoint.Pipeline
import PlatformLink.Proofs.Endpoint.Root
import PlatformLink.Proofs.Endpoint.SingleRequest

/-!
# Clients as they are made

A client that was made over a base URL, and on which nothing has been put since, has a root without
query and without fragment, and no middleware. If its credentials can be written into a header, it
hands each prepared request to the transport, and nothing but the status stands between the answer
and the caller.
-/

namespace PlatformLink.Endpoint

open Web (Request Response Url)

variable {σ α β : Type}

/-- What a call gives is read, or it fails. -/
theorem Call.perform_bind_ofOutcome (x : Call σ α) (f : α → Outcome β) (s : σ) :
    (x >>= fun a => Call.ofOutcome (f a)).perform s =
      ((x.perform s).1 >>= fun a => (f a).mapError .failed, (x.perform s).2) := by
  rw [Call.perform_bind]
  rcases x.perform s with ⟨stop | a, s'⟩
  · rfl
  · exact Call.perform_ofOutcome (f a) s'

/-! ## Roots under any scheme -/

theorem exists_of_extendPath? {u v : Url} {texts : List String} (h : u.extendPath? texts = some v) :
    ∃ ss, u.path = .segments ss ∧ v = { u with
      path := .segments
        (Web.pushSegments (u.scheme == "file") u.segmentPart (Web.withoutEmptyEnd ss) texts) } := by
  unfold Url.extendPath? at h
  split at h
  next => cases h
  next ss hpath => exact ⟨ss, hpath, (Option.some.inj h).symm⟩

/-- What is known of a root under any scheme. -/
structure AnyRoot (u : Url) : Prop where
  query : u.query = none
  fragment : u.fragment = none
  segments : ∃ ss, u.path = .segments ss

theorem anyRoot_of_root {baseUrl : String} {tenant : Option Tenant} {u : Url}
    (h : root baseUrl tenant = .ok u) : AnyRoot u := by
  obtain ⟨base, -, hu⟩ := bind_eq_ok_iff.mp h
  split at hu
  next v hextend =>
    obtain ⟨ss, -, rfl⟩ := exists_of_extendPath? hextend
    rw [← Except.ok.inj hu]
    exact ⟨rfl, rfl, _, rfl⟩
  next => cases hu

/-! ## Making a client -/

namespace Client

theorem new_eq_ok_iff {baseUrl : String} {tenant : Option Tenant}
    {credentials : Option Credentials} {t : Transport σ} {c : Client σ} :
    Client.new baseUrl tenant credentials t = .ok c ↔
      ∃ u, Endpoint.root baseUrl tenant = .ok u ∧ c = ⟨u, tenant, credentials, t, [], []⟩ := by
  rw [Client.new, bind_eq_ok_iff]
  constructor
  · rintro ⟨u, hu, hc⟩
    exact ⟨u, hu, (Except.ok.inj hc).symm⟩
  · rintro ⟨u, hu, rfl⟩
    exact ⟨u, hu, rfl⟩

/-- A client as it is made. -/
structure Fresh (c : Client σ) : Prop extends c.Bare where
  root : AnyRoot c.root

theorem fresh_of_new {baseUrl : String} {tenant : Option Tenant}
    {credentials : Option Credentials} {t : Transport σ} {c : Client σ}
    (h : Client.new baseUrl tenant credentials t = .ok c) : c.Fresh := by
  obtain ⟨u, hu, rfl⟩ := new_eq_ok_iff.mp h
  exact ⟨⟨rfl, rfl⟩, anyRoot_of_root hu⟩

variable {c : Client σ}

/-- The URL of a resource differs from the root in its path alone. -/
theorem exists_urlFor_eq_path (c : Client σ) (segments : List String) :
    ∃ path, c.urlFor segments = { c.root with path := path } := by
  unfold urlFor
  cases h : c.root.extendPath? segments with
  | none => exact ⟨c.root.path, rfl⟩
  | some v =>
    obtain ⟨ss, -, rfl⟩ := exists_of_extendPath? h
    exact ⟨_, rfl⟩

/-- Under a root with segments every resource has a URL of its own making. -/
theorem extendPath?_root (hroot : AnyRoot c.root) (texts : List String) :
    c.root.extendPath? texts = some (c.urlFor texts) := by
  obtain ⟨ss, hpath⟩ := hroot.segments
  simp [urlFor, Url.extendPath?, hpath]

theorem query_urlFor (c : Client σ) (segments : List String) :
    (c.urlFor segments).query = c.root.query := by
  obtain ⟨path, hpath⟩ := c.exists_urlFor_eq_path segments
  rw [hpath]

/-! ## Sending -/

@[simp] theorem method_prepared (c : Client σ) (r : Request) :
    (c.prepared r).method = r.method := by
  unfold prepared
  cases c.credentials <;> rfl

@[simp] theorem url_prepared (c : Client σ) (r : Request) : (c.prepared r).url = r.url := by
  unfold prepared
  cases c.credentials <;> rfl

@[simp] theorem body_prepared (c : Client σ) (r : Request) : (c.prepared r).body = r.body := by
  unfold prepared
  cases c.credentials <;> rfl

/-- The answer of the transport to the prepared request decides by its status. -/
theorem Bare.perform_send (hbare : c.Bare) (hlegal : c.LegalCredentials) (r : Request) (s : σ) :
    (c.send r).perform s =
      (((c.transport (c.prepared r)).perform s).1 >>= fun answer =>
        (checkStatus answer).mapError .failed, ((c.transport (c.prepared r)).perform s).2) := by
  rw [hbare.send_eq, prepare_of_legal hlegal]
  exact Call.perform_bind_ofOutcome (c.transport (c.prepared r)) checkStatus s

/-! ## What reaches the transport -/

/-- What a client hands to the transport for a request: legal credentials are written into it, and
the middleware lets it pass. -/
def Sends (c : Client σ) (r q : Request) : Prop :=
  c.LegalCredentials ∧ passThrough c.requestMiddleware (c.prepared r) = .ok q

theorem sendsOne_sends (c : Client σ) (r : Request) :
    SendsOne (c.Sends r) (∃ q, c.Sends r q) (c.recorded.send r) (c.send r) := by
  refine SendsOne.ofOutcome_bind ?_ fun made (hmade : c.prepare r = .ok made) => ?_
  · rintro ⟨q, hlegal, -⟩
    exact ⟨_, prepare_of_legal hlegal r⟩
  have hlegal : c.LegalCredentials := by
    by_contra hillegal
    have hrefused := (prepare_of_not_legal hillegal r).symm.trans hmade
    cases hrefused
  rw [prepare_of_legal hlegal] at hmade
  obtain rfl := Except.ok.inj hmade
  refine SendsOne.ofOutcome_bind ?_ fun passed hpassed => ?_
  · rintro ⟨q, -, hq⟩
    exact ⟨q, hq⟩
  refine SendsOne.bind_silent (SendsOne.transport c.transport ⟨hlegal, hpassed⟩) fun response => ?_
  exact Records.bind (Records.ofOutcome _) fun _ => Records.ofOutcome _

/-- Middleware that lets every request pass and touches nothing but its headers. -/
def TouchesHeaders (m : RequestMiddleware) : Prop :=
  ∀ r, ∃ headers, m r = .ok { r with headers := headers }

/-- A fixed header is such a middleware. -/
theorem touchesHeaders_middleware (h : FixedHeader) : TouchesHeaders h.middleware :=
  fun _ => ⟨_, rfl⟩

theorem passThrough_of_touchesHeaders {ms : List RequestMiddleware}
    (h : ∀ m ∈ ms, TouchesHeaders m) (r : Request) :
    ∃ headers, passThrough ms r = .ok { r with headers := headers } := by
  induction ms generalizing r with
  | nil => exact ⟨r.headers, rfl⟩
  | cons m rest ih =>
    obtain ⟨hm, hrest⟩ := List.forall_mem_cons.mp h
    obtain ⟨headers, hr⟩ := hm r
    rw [passThrough, hr, ok_bind]
    exact ih hrest _

/-- Where nothing is refused or rewritten the request itself is sent, under other headers. -/
theorem LegalCredentials.exists_sends (h : c.LegalCredentials)
    (hmiddleware : ∀ m ∈ c.requestMiddleware, TouchesHeaders m) (r : Request) :
    ∃ headers, c.Sends r { r with headers := headers } := by
  obtain ⟨headers, hpassed⟩ := passThrough_of_touchesHeaders hmiddleware (c.prepared r)
  rw [method_prepared, url_prepared, body_prepared] at hpassed
  exact ⟨headers, h, hpassed⟩

theorem Bare.recorded (h : c.Bare) : c.recorded.Bare := ⟨h.request, h.response⟩

theorem LegalCredentials.recorded (h : c.LegalCredentials) : c.recorded.LegalCredentials := h

end Client

end PlatformLink.Endpoint
