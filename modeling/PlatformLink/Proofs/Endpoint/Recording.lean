import PlatformLink.Endpoint.Client
import PlatformLink.Proofs.Outcome

/-!
# Records of what is sent

A recorded transport behaves as the transport it is made from, and keeps the requests it is given
beside the state of that transport. `Records P` compares a call over the one with a call over the
other: the result and the state are the same, and what was added to the record meets `P`. It is
closed under all that calls are composed of, so it passes from a single request to every operation.
-/

namespace PlatformLink.Endpoint

open Web (Request Response)

variable {σ α β : Type}

/-- A transport that keeps a record. -/
def Transport.recorded (t : Transport σ) : Transport (σ × List Request) := fun r s =>
  (((t r).perform s.1).1, ((t r).perform s.1).2, s.2 ++ [r])

/-- A client over the recorded transport. -/
def Client.recorded (c : Client σ) : Client (σ × List Request) :=
  ⟨c.root, c.tenant, c.credentials, Transport.recorded c.transport, c.requestMiddleware,
    c.responseMiddleware⟩

namespace Call

theorem perform_mk (x : Call σ α) (next : Except Stop α → StateM σ (Except Stop β)) (s : σ) :
    Call.perform (ExceptT.mk (x.run >>= next)) s = next (x.perform s).1 (x.perform s).2 := rfl

theorem perform_bind (x : Call σ α) (f : α → Call σ β) (s : σ) :
    (x >>= f).perform s =
      match x.perform s with
      | (.ok a, s') => (f a).perform s'
      | (.error stop, s') => (.error stop, s') := by
  refine (perform_mk x (ExceptT.bindCont f) s).trans ?_
  rcases x.perform s with ⟨_ | _, s'⟩ <;> rfl

theorem perform_tryCatch (x : Call σ α) (handle : Stop → Call σ α) (s : σ) :
    (tryCatch x handle).perform s =
      match x.perform s with
      | (.ok a, s') => (.ok a, s')
      | (.error stop, s') => (handle stop).perform s' := by
  change Call.perform (ExceptT.tryCatch x handle) s = _
  rw [ExceptT.tryCatch]
  refine (perform_mk x _ s).trans ?_
  rcases x.perform s with ⟨_ | _, s'⟩ <;> rfl

end Call

/-- A call with a record does what a call without one does, and adds what meets `P`. -/
def Records (P : Request → Prop) (x : Call (σ × List Request) α) (y : Call σ α) : Prop :=
  ∀ s seen, ∃ new, x.perform (s, seen) = ((y.perform s).1, (y.perform s).2, seen ++ new) ∧
    ∀ r ∈ new, P r

namespace Records

variable {P : Request → Prop}

theorem pure (a : α) : Records P (Pure.pure a : Call (σ × List Request) α) (Pure.pure a) := by
  intro s seen
  exact ⟨[], by rw [List.append_nil]; rfl, nofun⟩

theorem throw (stop : Stop) :
    Records P (MonadExcept.throw stop : Call (σ × List Request) α) (MonadExcept.throw stop) := by
  intro s seen
  exact ⟨[], by rw [List.append_nil]; rfl, nofun⟩

theorem ofOutcome (x : Outcome α) :
    Records P (Call.ofOutcome x : Call (σ × List Request) α) (Call.ofOutcome x) := by
  cases x with
  | ok a => exact pure a
  | error e => exact throw (.failed e)

theorem transport (t : Transport σ) {r : Request} (h : P r) :
    Records P (Transport.recorded t r) (t r) := by
  intro s seen
  refine ⟨[r], rfl, ?_⟩
  intro q hq
  rw [List.mem_singleton.mp hq]
  exact h

theorem bind {x : Call (σ × List Request) α} {y : Call σ α}
    {f : α → Call (σ × List Request) β} {g : α → Call σ β} (hxy : Records P x y)
    (hfg : ∀ a, Records P (f a) (g a)) : Records P (x >>= f) (y >>= g) := by
  intro s seen
  obtain ⟨first, hx, hfirst⟩ := hxy s seen
  rw [Call.perform_bind, Call.perform_bind, hx]
  rcases hy : y.perform s with ⟨stop | a, s'⟩
  · exact ⟨first, rfl, hfirst⟩
  · obtain ⟨more, hf, hmore⟩ := hfg a s' (seen ++ first)
    refine ⟨first ++ more, ?_, ?_⟩
    · rw [← List.append_assoc]
      exact hf
    · intro r hr
      rcases List.mem_append.mp hr with hr | hr
      · exact hfirst r hr
      · exact hmore r hr

theorem tryCatch {x : Call (σ × List Request) α} {y : Call σ α}
    {f : Stop → Call (σ × List Request) α} {g : Stop → Call σ α} (hxy : Records P x y)
    (hfg : ∀ stop, Records P (f stop) (g stop)) :
    Records P (MonadExcept.tryCatch x f) (MonadExcept.tryCatch y g) := by
  intro s seen
  obtain ⟨first, hx, hfirst⟩ := hxy s seen
  rw [Call.perform_tryCatch, Call.perform_tryCatch, hx]
  rcases hy : y.perform s with ⟨stop | a, s'⟩
  · obtain ⟨more, hf, hmore⟩ := hfg stop s' (seen ++ first)
    refine ⟨first ++ more, ?_, ?_⟩
    · rw [← List.append_assoc]
      exact hf
    · intro r hr
      rcases List.mem_append.mp hr with hr | hr
      · exact hfirst r hr
      · exact hmore r hr
  · exact ⟨first, rfl, hfirst⟩

theorem ofOutcome_bind {x : Outcome α} {f : α → Call (σ × List Request) β} {g : α → Call σ β}
    (h : ∀ a, x = .ok a → Records P (f a) (g a)) :
    Records P (Call.ofOutcome x >>= f) (Call.ofOutcome x >>= g) := by
  cases x with
  | ok a =>
    intro s seen
    exact h a rfl s seen
  | error e => exact throw (.failed e)

theorem map {x : Call (σ × List Request) α} {y : Call σ α} (h : Records P x y) (f : α → β) :
    Records P (f <$> x) (f <$> y) := by
  rw [map_eq_pure_bind, map_eq_pure_bind]
  exact bind h fun a => pure (f a)

end Records

/-! ## Requests on their way -/

/-- A middleware that leaves the URL of a request as it is. -/
def KeepsUrl (m : RequestMiddleware) : Prop :=
  ∀ r r', m r = .ok r' → r'.url = r.url

/-- A fixed header touches no URL. -/
theorem keepsUrl_middleware (h : FixedHeader) : KeepsUrl h.middleware := by
  intro r r' hr
  rw [← Except.ok.inj hr]

theorem url_passThrough {ms : List RequestMiddleware} (hms : ∀ m ∈ ms, KeepsUrl m)
    {r r' : Request} (h : passThrough ms r = .ok r') : r'.url = r.url := by
  induction ms generalizing r with
  | nil => rw [← Except.ok.inj h]
  | cons m ms ih =>
    obtain ⟨q, hm, hq⟩ := bind_eq_ok_iff.mp h
    rw [ih (fun k hk => hms k (List.mem_cons_of_mem m hk)) hq, hms m List.mem_cons_self r q hm]

theorem url_prepare {c : Client σ} {r r' : Request} (h : c.prepare r = .ok r') :
    r'.url = r.url := by
  unfold Client.prepare at h
  dsimp only at h
  split at h
  next => rw [← Except.ok.inj h]
  next =>
    split at h
    next => rw [← Except.ok.inj h]
    next => cases h

namespace Client

variable {Q : Web.Url → Prop}

/-- What reaches the transport has the URL of the request that is sent. -/
theorem records_send (c : Client σ) (hms : ∀ m ∈ c.requestMiddleware, KeepsUrl m) {r : Request}
    (h : Q r.url) : Records (fun q => Q q.url) (c.recorded.send r) (c.send r) := by
  refine Records.ofOutcome_bind fun prepared hprepared => ?_
  refine Records.ofOutcome_bind fun passed hpassed => ?_
  have hurl : passed.url = r.url := by
    rw [url_passThrough hms hpassed]
    exact url_prepare (c := c) hprepared
  refine Records.bind (Records.transport c.transport ?_) fun response => ?_
  · rw [hurl]
    exact h
  · exact Records.bind (Records.ofOutcome _) fun response => Records.ofOutcome _

theorem records_sendJson (c : Client σ) (hms : ∀ m ∈ c.requestMiddleware, KeepsUrl m)
    {r : Request} (h : Q r.url) (codec : Json.Codec α) :
    Records (fun q => Q q.url) (c.recorded.sendJson codec r) (c.sendJson codec r) :=
  Records.bind (c.records_send hms h) fun _ => Records.ofOutcome _

theorem records_sendEmpty (c : Client σ) (hms : ∀ m ∈ c.requestMiddleware, KeepsUrl m)
    {r : Request} (h : Q r.url) :
    Records (fun q => Q q.url) (c.recorded.sendEmpty r) (c.sendEmpty r) :=
  Records.bind (c.records_send hms h) fun _ => Records.pure ()

end Client

end PlatformLink.Endpoint
