import PlatformLink.Proofs.Endpoint.Pipeline
import PlatformLink.Proofs.Endpoint.Recording

/-!
# Clients that differ in their tokens

A token goes into one header of a request and nowhere else, and what is put on a client after it
leaves that header alone: a fixed header is only added where its name has no value. So over a script
of answers two clients that differ in nothing but their tokens go the same way, request by request,
and the requests differ in that header alone.
-/

namespace PlatformLink

/-- The token can be written into a header. -/
def Credentials.Legal (a : Credentials) : Prop :=
  a.token.toList.all Web.isHeaderValueChar = true

namespace Web

namespace Headers

variable {hs : Headers} {name other : HeaderName} {v : HeaderValue}

/-- All values of a name. -/
def values (hs : Headers) (name : HeaderName) : List HeaderValue :=
  (hs.filter (·.1 = name)).map (·.2)

theorem values_insert (hs : Headers) (name : HeaderName) (v : HeaderValue) :
    values (insert hs name v) name = [v] := by
  simp [values, insert, erase]

theorem erase_insert (hs : Headers) (name : HeaderName) (v : HeaderValue) :
    erase (insert hs name v) name = erase hs name := by
  simp [insert, erase]

theorem values_append_of_ne (h : other ≠ name) :
    values (append hs other v) name = values hs name := by
  simp [values, append, h]

theorem erase_append_of_ne (h : other ≠ name) :
    erase (append hs other v) name = append (erase hs name) other v := by
  simp [erase, append, h]

theorem contains_of_values_eq (h : values hs name = [v]) : contains hs name = true := by
  cases hget : get? hs name with
  | some _ => rw [contains, hget, Option.isSome_some]
  | none =>
    rw [get?, Option.map_eq_none_iff, List.find?_eq_none] at hget
    have hnone : hs.filter (fun x => decide (x.1 = name)) = [] := List.filter_eq_nil_iff.mpr hget
    rw [values, hnone] at h
    cases h

theorem contains_erase_of_ne (h : other ≠ name) :
    contains (erase hs name) other = contains hs other := by
  rw [contains, contains, get?, get?, find?_erase_of_ne hs h]

end Headers

/-- The request without what authorizes it. -/
def Request.withoutAuthorization (r : Request) : Request :=
  { r with headers := r.headers.erase .authorization }

end Web

namespace Endpoint

open Web (Request Response Headers HeaderName HeaderValue)

/-! ## Requests -/

/-- Requests that are equal without what authorizes them, and that is one header each. -/
structure TokensApart (a b : Credentials) (r q : Request) : Prop where
  rest : r.withoutAuthorization = q.withoutAuthorization
  left : r.headers.values .authorization = [⟨"Bearer " ++ a.token⟩]
  right : q.headers.values .authorization = [⟨"Bearer " ++ b.token⟩]

section

variable {a b : Credentials} {r q : Request}

/-- A fixed header is added to both requests or to neither, and never to authorize them. -/
theorem TokensApart.addTo (h : TokensApart a b r q) (f : FixedHeader) :
    TokensApart a b { r with headers := f.addTo r.headers }
      { q with headers := f.addTo q.headers } := by
  unfold FixedHeader.addTo Headers.insertIfAbsent
  by_cases hname : f.name = .authorization
  -- Both requests carry the name already, so the fixed value is dropped.
  · rw [hname, Headers.contains_of_values_eq h.left, Headers.contains_of_values_eq h.right]
    exact h
  -- Whether any other name has a value does not depend on what authorizes the requests.
  · have herased : r.headers.erase .authorization = q.headers.erase .authorization :=
      congrArg Request.headers h.rest
    have hcontains : r.headers.contains f.name = q.headers.contains f.name := by
      rw [← Headers.contains_erase_of_ne hname, herased, Headers.contains_erase_of_ne hname]
    rw [hcontains]
    split
    next => exact h
    next =>
      constructor
      · rw [Request.withoutAuthorization, Request.withoutAuthorization,
          Headers.erase_append_of_ne hname, Headers.erase_append_of_ne hname, herased]
        exact congrArg (fun p : Request => { p with
          headers := (q.headers.erase .authorization).append f.name f.value }) h.rest
      · rw [Headers.values_append_of_ne hname]
        exact h.left
      · rw [Headers.values_append_of_ne hname]
        exact h.right

theorem TokensApart.passThrough (h : TokensApart a b r q) (fs : List FixedHeader) :
    ∃ r' q', Endpoint.passThrough (fs.map FixedHeader.middleware) r = .ok r' ∧
      Endpoint.passThrough (fs.map FixedHeader.middleware) q = .ok q' ∧ TokensApart a b r' q' := by
  induction fs generalizing r q with
  | nil => exact ⟨r, q, rfl, rfl, h⟩
  | cons f rest ih => exact ih (h.addTo f)

end

/-! ## Scripts and calls over them -/

/-- Scripts with the same answers that have seen the same requests, the tokens apart. -/
structure Script.Matched (a b : Credentials) (s t : Script) : Prop where
  answers : s.answers = t.answers
  seen : List.Forall₂ (TokensApart a b) s.seen t.seen

/-- Calls that give the same over matched scripts and leave them matched. -/
def Alike (a b : Credentials) {α : Type} (x y : Call Script α) : Prop :=
  ∀ s t, Script.Matched a b s t →
    (x.perform s).1 = (y.perform t).1 ∧ Script.Matched a b (x.perform s).2 (y.perform t).2

namespace Alike

variable {α β : Type} {a b : Credentials}

theorem pure (x : α) : Alike a b (Pure.pure x : Call Script α) (Pure.pure x) :=
  fun _ _ h => ⟨rfl, h⟩

theorem throw (stop : Stop) :
    Alike a b (MonadExcept.throw stop : Call Script α) (MonadExcept.throw stop) :=
  fun _ _ h => ⟨rfl, h⟩

theorem ofOutcome (x : Outcome α) : Alike a b (Call.ofOutcome x) (Call.ofOutcome x) := by
  cases x with
  | ok x => exact pure x
  | error e => exact throw (.failed e)

theorem bind {x y : Call Script α} {f g : α → Call Script β} (hxy : Alike a b x y)
    (hfg : ∀ z, Alike a b (f z) (g z)) : Alike a b (x >>= f) (y >>= g) := by
  intro s t h
  obtain ⟨hresult, hleft⟩ := hxy s t h
  rw [Call.perform_bind, Call.perform_bind]
  rcases hx : x.perform s with ⟨r, s'⟩
  rcases hy : y.perform t with ⟨r', t'⟩
  rw [hx, hy] at hresult hleft
  dsimp only at hresult hleft
  rw [hresult]
  rcases r' with stop | z
  · exact ⟨rfl, hleft⟩
  · exact hfg z s' t' hleft

theorem tryCatch {x y : Call Script α} {f g : Stop → Call Script α} (hxy : Alike a b x y)
    (hfg : ∀ stop, Alike a b (f stop) (g stop)) :
    Alike a b (MonadExcept.tryCatch x f) (MonadExcept.tryCatch y g) := by
  intro s t h
  obtain ⟨hresult, hleft⟩ := hxy s t h
  rw [Call.perform_tryCatch, Call.perform_tryCatch]
  rcases hx : x.perform s with ⟨r, s'⟩
  rcases hy : y.perform t with ⟨r', t'⟩
  rw [hx, hy] at hresult hleft
  dsimp only at hresult hleft
  rw [hresult]
  rcases r' with stop | z
  · exact hfg stop s' t' hleft
  · exact ⟨rfl, hleft⟩

/-- The script does not look at the request. -/
theorem transport {r q : Request} (h : TokensApart a b r q) :
    Alike a b (Script.transport r) (Script.transport q) := by
  intro s t hmatched
  have hnext : s.next = t.next := by
    rw [Script.next, Script.next, hmatched.answers]
  refine ⟨hnext, ?_, ?_⟩
  · exact congrArg (List.drop 1) hmatched.answers
  · exact List.rel_append hmatched.seen (List.Forall₂.cons h .nil)

end Alike

/-! ## Clients -/

namespace Client

variable {α : Type}

/-- What is left of sending when the request middleware has let a request pass. -/
theorem send_of_passed {σ : Type} {c : Client σ} {r made : Request} (hlegal : c.LegalCredentials)
    (hpassed : passThrough c.requestMiddleware (c.prepared r) = .ok made) :
    c.send r = c.transport made >>= fun response =>
      Call.ofOutcome (passThrough c.responseMiddleware response) >>= fun response =>
        Call.ofOutcome (checkStatus response) := by
  rw [send, prepare_of_legal hlegal]
  change (Call.ofOutcome (passThrough c.requestMiddleware (c.prepared r)) >>= _ : Call σ _) = _
  rw [hpassed]
  rfl

/-- A client over a script, with nothing but fixed headers for its request middleware, and two
tokens that it can write. -/
structure Twins (c : Client Script) (a b : Credentials) : Prop where
  transport : c.transport = Script.transport
  headers : ∃ fs : List FixedHeader, c.requestMiddleware = fs.map FixedHeader.middleware
  left : a.Legal
  right : b.Legal

variable {c : Client Script} {a b : Credentials}

theorem legalCredentials_of_legal (ha : a.Legal) : (c.withCredentials a).LegalCredentials := by
  have hchars : a.token.toList.all Web.isHeaderValueChar = true := ha
  intro credentials hsome
  rw [← Option.some.inj hsome, Credentials.authorizationHeader, String.toList_append,
    List.all_append, hchars]
  decide

theorem tokensApart_prepared (c : Client Script) (a b : Credentials) (r : Request) :
    TokensApart a b ((c.withCredentials a).prepared r) ((c.withCredentials b).prepared r) := by
  constructor
  · simp [prepared, withCredentials, Request.withoutAuthorization, Headers.erase_insert]
  · exact Headers.values_insert _ _ _
  · exact Headers.values_insert _ _ _

namespace Twins

theorem alike_send (h : c.Twins a b) (r : Request) :
    Alike a b ((c.withCredentials a).send r) ((c.withCredentials b).send r) := by
  obtain ⟨fs, hfs⟩ := h.headers
  obtain ⟨r', q', hr, hq, hapart⟩ := (c.tokensApart_prepared a b r).passThrough fs
  rw [← hfs] at hr hq
  rw [send_of_passed (legalCredentials_of_legal h.left) hr,
    send_of_passed (legalCredentials_of_legal h.right) hq]
  refine Alike.bind ?_ fun response => Alike.bind (Alike.ofOutcome _) fun _ => Alike.ofOutcome _
  change Alike a b (c.transport r') (c.transport q')
  rw [h.transport]
  exact Alike.transport hapart

theorem alike_sendJson (h : c.Twins a b) (codec : Json.Codec α) (r : Request) :
    Alike a b ((c.withCredentials a).sendJson codec r) ((c.withCredentials b).sendJson codec r) :=
  (h.alike_send r).bind fun _ => Alike.ofOutcome _

theorem alike_sendEmpty (h : c.Twins a b) (r : Request) :
    Alike a b ((c.withCredentials a).sendEmpty r) ((c.withCredentials b).sendEmpty r) :=
  (h.alike_send r).bind fun _ => Alike.pure ()

end Twins

end Client

end Endpoint

end PlatformLink
