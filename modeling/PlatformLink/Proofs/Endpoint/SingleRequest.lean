import PlatformLink.Proofs.Endpoint.Recording

/-!
# Calls that send one request

`SendsOne P Q` compares a call over a recorded transport with the call over the transport itself, as
`Records` does, and counts as well: what is added to the record is one request at most, and surely
one where `Q` holds. A call keeps this when it is guarded by something that passes where `Q` holds
and when it goes on in a way that sends nothing.

What a client sends need not be the request it was given: it is prepared and passes the middleware
first. Either may refuse it, or make another request of it.
-/

namespace PlatformLink.Endpoint

open Web (Request Response Url)

variable {σ α β : Type}

/-- A call that sends nothing. -/
abbrev Silent (x : Call (σ × List Request) α) (y : Call σ α) : Prop :=
  Records (fun _ => False) x y

/-- A call that sends one request at most, which meets `P`, and surely one if `Q` holds. -/
def SendsOne (P : Request → Prop) (Q : Prop) (x : Call (σ × List Request) α) (y : Call σ α) :
    Prop :=
  ∀ s seen, ∃ sent : Option Request,
    x.perform (s, seen) = ((y.perform s).1, (y.perform s).2, seen ++ sent.toList) ∧
      (∀ r ∈ sent, P r) ∧ (Q → sent.isSome = true)

theorem Silent.perform {x : Call (σ × List Request) α} {y : Call σ α} (h : Silent x y) (s : σ)
    (seen : List Request) : x.perform (s, seen) = ((y.perform s).1, (y.perform s).2, seen) := by
  obtain ⟨new, hperform, hnew⟩ := h s seen
  rw [List.eq_nil_iff_forall_not_mem.mpr hnew, List.append_nil] at hperform
  exact hperform

namespace SendsOne

variable {P : Request → Prop} {Q : Prop}

theorem transport (t : Transport σ) {r : Request} (h : P r) :
    SendsOne P Q (Transport.recorded t r) (t r) := by
  intro s seen
  refine ⟨some r, rfl, ?_, fun _ => rfl⟩
  intro q hq
  rw [← Option.some.inj hq]
  exact h

theorem imp {R : Prop} {x : Call (σ × List Request) α} {y : Call σ α} (h : SendsOne P Q x y)
    (hr : R → Q) : SendsOne P R x y := by
  intro s seen
  obtain ⟨sent, hperform, hsent, hsurely⟩ := h s seen
  exact ⟨sent, hperform, hsent, hsurely ∘ hr⟩

theorem ofOutcome_bind {x : Outcome β} {f : β → Call (σ × List Request) α} {g : β → Call σ α}
    (hpasses : Q → ∃ a, x = .ok a) (h : ∀ a, x = .ok a → SendsOne P Q (f a) (g a)) :
    SendsOne P Q (Call.ofOutcome x >>= f) (Call.ofOutcome x >>= g) := by
  cases x with
  | ok a =>
    intro s seen
    exact h a rfl s seen
  | error e =>
    intro s seen
    refine ⟨none, ?_, nofun, ?_⟩
    · rw [Option.toList_none, List.append_nil]
      rfl
    · intro hq
      obtain ⟨a, ha⟩ := hpasses hq
      cases ha

theorem bind_silent {x : Call (σ × List Request) α} {y : Call σ α}
    {f : α → Call (σ × List Request) β} {g : α → Call σ β} (hxy : SendsOne P Q x y)
    (hfg : ∀ a, Silent (f a) (g a)) : SendsOne P Q (x >>= f) (y >>= g) := by
  intro s seen
  obtain ⟨sent, hx, hsent⟩ := hxy s seen
  refine ⟨sent, ?_, hsent⟩
  rw [Call.perform_bind, Call.perform_bind, hx]
  rcases y.perform s with ⟨stop | a, s'⟩
  · rfl
  · exact (hfg a).perform s' (seen ++ sent.toList)

theorem map {x : Call (σ × List Request) α} {y : Call σ α} (h : SendsOne P Q x y) (f : α → β) :
    SendsOne P Q (f <$> x) (f <$> y) := by
  rw [map_eq_pure_bind, map_eq_pure_bind]
  exact bind_silent h fun a => Records.pure (f a)

theorem tryCatch_silent {x : Call (σ × List Request) α} {y : Call σ α}
    {f : Stop → Call (σ × List Request) α} {g : Stop → Call σ α} (hxy : SendsOne P Q x y)
    (hfg : ∀ stop, Silent (f stop) (g stop)) :
    SendsOne P Q (MonadExcept.tryCatch x f) (MonadExcept.tryCatch y g) := by
  intro s seen
  obtain ⟨sent, hx, hsent⟩ := hxy s seen
  refine ⟨sent, ?_, hsent⟩
  rw [Call.perform_tryCatch, Call.perform_tryCatch, hx]
  rcases y.perform s with ⟨stop | a, s'⟩
  · exact (hfg stop).perform s' (seen ++ sent.toList)
  · rfl

end SendsOne

/-! ## The requests of a client -/

namespace Client

/-- A client that refuses no request before it is sent. -/
def Ready (c : Client σ) : Prop :=
  ∀ r, ∃ prepared passed, c.prepare r = .ok prepared ∧
    passThrough c.requestMiddleware prepared = .ok passed

/-- A request that a client makes of one for the URL. -/
def MadeFor (c : Client σ) (u : Url) (made : Request) : Prop :=
  ∃ r prepared, r.url = u ∧ c.prepare r = .ok prepared ∧
    passThrough c.requestMiddleware prepared = .ok made

/-- Middleware that leaves URLs as they are leaves the URL that was asked for. -/
theorem MadeFor.url_eq {c : Client σ} {u : Url} {made : Request} (h : c.MadeFor u made)
    (hms : ∀ m ∈ c.requestMiddleware, KeepsUrl m) : made.url = u := by
  obtain ⟨r, prepared, rfl, hprepared, hpassed⟩ := h
  rw [url_passThrough hms hpassed, url_prepare hprepared]

variable (c : Client σ) {u : Url} {r : Request}

theorem sendsOne_send (h : r.url = u) :
    SendsOne (c.MadeFor u) c.Ready (c.recorded.send r) (c.send r) := by
  refine SendsOne.ofOutcome_bind ?_ fun prepared hprepared => ?_
  · intro hready
    obtain ⟨prepared, -, hprepared, -⟩ := hready r
    exact ⟨prepared, hprepared⟩
  refine SendsOne.ofOutcome_bind ?_ fun passed hpassed => ?_
  · intro hready
    obtain ⟨other, passed, hother, hpassed⟩ := hready r
    have hsame : other = prepared := Except.ok.inj (hother.symm.trans hprepared)
    rw [hsame] at hpassed
    exact ⟨passed, hpassed⟩
  refine SendsOne.bind_silent (SendsOne.transport c.transport ⟨r, prepared, h, hprepared, hpassed⟩)
    fun response => ?_
  exact Records.bind (Records.ofOutcome _) fun response => Records.ofOutcome _

theorem sendsOne_sendJson (h : r.url = u) (codec : Json.Codec α) :
    SendsOne (c.MadeFor u) c.Ready (c.recorded.sendJson codec r) (c.sendJson codec r) :=
  SendsOne.bind_silent (c.sendsOne_send h) fun _ => Records.ofOutcome _

theorem sendsOne_sendEmpty (h : r.url = u) :
    SendsOne (c.MadeFor u) c.Ready (c.recorded.sendEmpty r) (c.sendEmpty r) :=
  SendsOne.bind_silent (c.sendsOne_send h) fun _ => Records.pure ()

end Client

end PlatformLink.Endpoint
