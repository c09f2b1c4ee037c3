import PlatformLink.Proofs.Endpoint.Sending
import PlatformLink.Proofs.Web.HeaderTable

/-!
# Which header wins

Four hands write the headers of a request, each by a rule of its own: who asks for it sets names,
the client adds the media type it accepts where none is set, its credentials replace what is there,
and its middleware adds names that are absent. So what the transport sees under a name is a matter
of precedence (`headerUnder`): first the credentials, then what was set last, then the media type,
then the header that was registered first.
-/

namespace PlatformLink.Endpoint

open Web (Headers HeaderFault HeaderName HeaderValue Method Request Response valueUnder)

variable {σ α : Type}

/-! ## What is asked for -/

/-- What may be added to a request before it is sent. -/
inductive Addition where
  | query (name value : String)
  | header (name value : String)
  | body (v : Json)

namespace Addition

def addTo (r : Request) : Addition → Except HeaderFault Request
  | query name value => .ok (r.query name value)
  | header name value => r.header name value
  | body v => .ok (r.withBody v)

def header? : Addition → Option (String × String)
  | header name value => some (name, value)
  | query .. | body _ => none

end Addition

/-- A request with additions, up to the first header that is malformed. -/
def withAdditions (r : Request) (added : List Addition) : Except HeaderFault Request :=
  added.foldlM Addition.addTo r

/-! ## Precedence -/

/-- What was last set under a name. -/
def lastUnder (name : String) (pairs : List (String × String)) : Option String :=
  pairs.reverse.findSome? (valueUnder name)

/-- What was first given under a name. -/
def firstUnder (name : String) (pairs : List (String × String)) : Option String :=
  pairs.findSome? (valueUnder name)

/-- What a request is to carry under a name, by the credentials, the headers that were set and those
that were registered. -/
def headerUnder (credentials : Option Credentials) (set registered : List (String × String))
    (name : String) : Option String :=
  (credentials.bind fun c => valueUnder name ("authorization", "Bearer " ++ c.token)).or <|
    (lastUnder name set).or <|
    (valueUnder name ("accept", "application/json")).or <|
    firstUnder name registered

theorem lastUnder_cons (name : String) (pair : String × String) (pairs : List (String × String)) :
    lastUnder name (pair :: pairs) = (lastUnder name pairs).or (valueUnder name pair) := by
  rw [lastUnder, List.reverse_cons, List.findSome?_append, List.findSome?_singleton, lastUnder]

theorem firstUnder_cons (name : String) (pair : String × String)
    (pairs : List (String × String)) :
    firstUnder name (pair :: pairs) = (valueUnder name pair).or (firstUnder name pairs) := by
  rw [firstUnder, List.findSome?_cons, firstUnder]
  cases valueUnder name pair <;> rfl

/-! ## What each hand writes -/

/-- Headers in which each name is there once, in some case, and under which a value is found as
`found` tells. -/
structure Reads (hs : Headers) (found : String → Option String) : Prop where
  canonical : hs.Canonical
  value : ∀ name, hs.value? name = found name

namespace Reads

variable {hs : Headers} {found : String → Option String}

theorem nil : Reads [] fun _ => none :=
  ⟨Headers.canonical_nil, fun _ => rfl⟩

theorem insert (h : Reads hs found) {name : HeaderName} (hname : name.IsLower)
    (value : HeaderValue) : Reads (hs.insert name value) fun s =>
      (valueUnder s (name.text, value.text)).or (found s) where
  canonical := h.canonical.insert hname value
  value s := by rw [h.canonical.value?_insert hname, h.value]

theorem insertIfAbsent (h : Reads hs found) {name : HeaderName} (hname : name.IsLower)
    (value : HeaderValue) : Reads (hs.insertIfAbsent name value) fun s =>
      (found s).or (valueUnder s (name.text, value.text)) where
  canonical := h.canonical.insertIfAbsent hname value
  value s := by rw [Headers.value?_insertIfAbsent, h.value]

variable {r r' : Request}

theorem header (h : Reads r.headers found) {name value : String}
    (hset : r.header name value = .ok r') : Reads r'.headers fun s =>
      (valueUnder s (name, value)).or (found s) := by
  obtain ⟨n, hn, hrest⟩ := bind_eq_ok_iff.mp hset
  obtain ⟨v, hv, hmade⟩ := bind_eq_ok_iff.mp hrest
  obtain rfl := ((HeaderValue.parse_eq_ok_iff _ _).mp hv).2
  have hinsert := h.insert (HeaderName.isLower_of_parse hn) ⟨value⟩
  rw [HeaderName.eq_of_parse hn] at hinsert hmade
  simp only [Web.valueUnder_lowerAscii] at hinsert
  rw [← Except.ok.inj hmade]
  exact hinsert

/-- Of what is added only headers count, and of these the last. -/
theorem withAdditions (h : Reads r.headers found) {added : List Addition}
    (hadded : Endpoint.withAdditions r added = .ok r') : Reads r'.headers fun s =>
      (lastUnder s (added.filterMap Addition.header?)).or (found s) := by
  induction added generalizing r found with
  | nil =>
    rw [← Except.ok.inj hadded]
    exact h
  | cons a rest ih =>
    rw [Endpoint.withAdditions, List.foldlM_cons] at hadded
    obtain ⟨q, hq, hrest⟩ := bind_eq_ok_iff.mp hadded
    cases a with
    | query name value =>
      obtain rfl := Except.ok.inj hq
      exact ih (r := r.query name value) h hrest
    | body v =>
      obtain rfl := Except.ok.inj hq
      exact ih (r := r.withBody v) h hrest
    | header name value =>
      have hlast := ih (h.header hq) hrest
      simp only [← Option.or_assoc, ← lastUnder_cons] at hlast
      exact hlast

/-- Preparing puts the credentials before all, and the media type behind. -/
theorem prepared (h : Reads r.headers found) (c : Client σ) : Reads (c.prepared r).headers fun s =>
    (c.credentials.bind fun cr => valueUnder s ("authorization", "Bearer " ++ cr.token)).or <|
      (found s).or (valueUnder s ("accept", "application/json")) := by
  have hnames : Web.HeaderName.accept.IsLower ∧ Web.HeaderName.authorization.IsLower := by decide
  have haccept := h.insertIfAbsent hnames.1 Client.jsonMediaType
  unfold Client.prepared
  cases c.credentials with
  | none => exact haccept
  | some cr => exact haccept.insert hnames.2 ⟨cr.authorizationHeader⟩

end Reads

/-! ## Registered headers -/

theorem FixedHeader.eq_of_new {name value : String} {f : FixedHeader}
    (h : FixedHeader.new name value = .ok f) :
    HeaderName.parse name = .ok f.name ∧ f.value = ⟨value⟩ := by
  obtain ⟨n, hn, hrest⟩ := bind_eq_ok_iff.mp (mapError_eq_ok_iff.mp h)
  obtain ⟨v, hv, hmade⟩ := bind_eq_ok_iff.mp hrest
  rw [← Except.ok.inj hmade]
  exact ⟨hn, ((HeaderValue.parse_eq_ok_iff _ _).mp hv).2⟩

/-- The middleware of a client adds the headers that were registered, and does nothing else. -/
def Client.Registers (c : Client σ) (registered : List (String × String)) : Prop :=
  ∃ fixed : List FixedHeader,
    List.Forall₂ (fun pair f => FixedHeader.new pair.1 pair.2 = .ok f) registered fixed ∧
      c.requestMiddleware = fixed.map FixedHeader.middleware

namespace Reads

variable {r r' : Request} {found : String → Option String}

theorem registered (h : Reads r.headers found) {name value : String} {f : FixedHeader}
    (hnew : FixedHeader.new name value = .ok f) : Reads (f.addTo r.headers) fun s =>
      (found s).or (valueUnder s (name, value)) := by
  obtain ⟨hname, hvalue⟩ := FixedHeader.eq_of_new hnew
  have hadded := h.insertIfAbsent (HeaderName.isLower_of_parse hname) f.value
  refine ⟨hadded.canonical, fun s => (hadded.value s).trans ?_⟩
  rw [HeaderName.eq_of_parse hname, hvalue, Web.valueUnder_lowerAscii]

/-- Of what is registered under a name the first counts, and only where the name is absent. -/
theorem passThrough {pairs : List (String × String)} {fixed : List FixedHeader}
    (h : Reads r.headers found)
    (hfixed : List.Forall₂ (fun pair f => FixedHeader.new pair.1 pair.2 = .ok f) pairs fixed)
    (hpassed : Endpoint.passThrough (fixed.map FixedHeader.middleware) r = .ok r') :
    Reads r'.headers fun s => (found s).or (firstUnder s pairs) := by
  induction hfixed generalizing r found with
  | nil =>
    rw [← Except.ok.inj hpassed]
    simp only [firstUnder, List.findSome?_nil, Option.or_none]
    exact h
  | @cons pair f pairs fixed hnew _ ih =>
    have hrest := ih (r := { r with headers := f.addTo r.headers }) (h.registered hnew) hpassed
    simp only [Option.or_assoc, ← firstUnder_cons] at hrest
    exact hrest

end Reads

/-! ## What the transport sees -/

/-- Of a request that a client sends in any way the transport sees one, and it is `q`. -/
structure Client.Transmits (c : Client σ) (r q : Request) : Prop where
  send : ∀ s, ((c.recorded.send r).perform (s, [])).2.2 = [q]
  sendEmpty : ∀ s, ((c.recorded.sendEmpty r).perform (s, [])).2.2 = [q]
  sendJson : ∀ {α : Type} (codec : Json.Codec α) s,
    ((c.recorded.sendJson codec r).perform (s, [])).2.2 = [q]

theorem SendsOne.seen_eq {P : Request → Prop} {Q : Prop} {x : Call (σ × List Request) α}
    {y : Call σ α} {q : Request} (h : SendsOne P Q x y) (hq : Q) (honly : ∀ p, P p → p = q)
    (s : σ) :
    (x.perform (s, [])).2.2 = [q] := by
  obtain ⟨sent, hperform, hsent, hsurely⟩ := h s []
  obtain ⟨p, rfl⟩ := Option.isSome_iff_exists.mp (hsurely hq)
  rw [hperform, honly p (hsent p rfl)]
  rfl

theorem Client.Sends.transmits {c : Client σ} {r q : Request} (h : c.Sends r q) :
    c.Transmits r q := by
  have hone := c.sendsOne_sends r
  have honly : ∀ p, c.Sends r p → p = q := fun p hp => Except.ok.inj (hp.2.symm.trans h.2)
  constructor
  case send => exact hone.seen_eq ⟨q, h⟩ honly
  case sendEmpty =>
    exact (hone.bind_silent fun _ => Records.pure ()).seen_eq ⟨q, h⟩ honly
  case sendJson =>
    intro α codec
    exact (hone.bind_silent fun _ => Records.ofOutcome _).seen_eq ⟨q, h⟩ honly

/-- Whatever is added to a request of a client and whatever headers are registered with the client,
what the transport sees has no name twice, in any case, and under each name the value that
comes first. -/
theorem Client.headers_by_precedence {c : Client σ} (hlegal : c.LegalCredentials)
    {registered : List (String × String)} (hregistered : c.Registers registered)
    {method : Method} {segments : List String} {added : List Addition} {r : Request}
    (hadded : withAdditions (c.request method segments) added = .ok r) :
    ∃ q : Request, c.Transmits r q ∧
      (q.headers.Pairwise fun h h' => Text.eqIgnoringCase h.1.text h'.1.text = false) ∧
      ∀ name, q.headers.value? name =
        headerUnder c.credentials (added.filterMap Addition.header?) registered name := by
  obtain ⟨fixed, hfixed, hmiddleware⟩ := hregistered
  have htouches : ∀ m ∈ c.requestMiddleware, TouchesHeaders m := by
    rw [hmiddleware]
    exact List.forall_mem_map.mpr fun f _ => touchesHeaders_middleware f
  obtain ⟨headers, hsends⟩ := hlegal.exists_sends htouches r
  have hpassed := hsends.2
  rw [hmiddleware] at hpassed
  have hreads := ((Reads.nil.withAdditions hadded).prepared c).passThrough hfixed hpassed
  refine ⟨_, hsends.transmits, hreads.canonical.pairwise, fun name => ?_⟩
  rw [hreads.value, headerUnder, Option.or_none, Option.or_assoc, Option.or_assoc]

/-- A client with credentials, and with a header registered twice. -/
def registeredClient : Client Script :=
  { Client.scripted with
    credentials := some ⟨"secret"⟩
    requestMiddleware := [FixedHeader.middleware ⟨⟨"x-trace"⟩, ⟨"1"⟩⟩,
      FixedHeader.middleware ⟨⟨"x-trace"⟩, ⟨"2"⟩⟩, FixedHeader.middleware ⟨.correlationId, ⟨"a"⟩⟩] }

def contendedHeaders : List Addition :=
  [.header "X-Correlation-Id" "b", .query "page" "1", .header "Authorization" "none",
    .header "x-correlation-ID" "c"]

/-- A header is set twice, another is set against the credentials, and one is registered twice. -/
theorem Client.headers_by_precedence_contended :
    registeredClient.LegalCredentials ∧
      registeredClient.Registers [("X-Trace", "1"), ("x-trace", "2"), ("x-correlation-id", "a")] ∧
      ∃ r q, withAdditions (registeredClient.request .get ["Forms"]) contendedHeaders = .ok r ∧
        registeredClient.Transmits r q ∧
        ["AUTHORIZATION", "X-Correlation-Id", "Accept", "X-Trace", "Host"].map q.headers.value? =
          [some "Bearer secret", some "c", some "application/json", some "1", none] := by
  have hlegal : registeredClient.LegalCredentials := by
    intro credentials h
    rw [← Option.some.inj h]
    decide
  have hregisters : registeredClient.Registers
      [("X-Trace", "1"), ("x-trace", "2"), ("x-correlation-id", "a")] :=
    ⟨_, .cons rfl (.cons rfl (.cons rfl .nil)), rfl⟩
  obtain ⟨r, hr⟩ : ∃ r, withAdditions (registeredClient.request .get ["Forms"]) contendedHeaders =
      .ok r := ⟨_, rfl⟩
  obtain ⟨q, hq, -, hvalue⟩ := Client.headers_by_precedence hlegal hregisters hr
  refine ⟨hlegal, hregisters, r, q, hr, hq, ?_⟩
  rw [List.map_congr_left fun name _ => hvalue name]
  decide

end PlatformLink.Endpoint
