import PlatformLink.Proofs.Catalogue
import PlatformLink.Proofs.Endpoint.Recording
import PlatformLink.Proofs.Endpoint.Status

/-!
# What an error tells of a response

The body of a response is redacted before it becomes part of an error, and the rest of an error is
made of words and numbers. One way past the redaction remains: the message of the decoder, which
repeats a string or the name of a variant that stood in the body. The errors of a client leak a
token in this case and in no other.
-/

namespace PlatformLink

open Text (HoldsToken)

namespace LinkError

/-- The text that is kept of an input that cannot be read. -/
def sourceText? : LinkError → Option String
  | .parse _ sourceText _ => sourceText
  | _ => none

/-- The message or the kept text holds a token. -/
def Leaks (e : LinkError) : Prop :=
  HoldsToken e.message.toList ∨ ∃ text, e.sourceText? = some text ∧ HoldsToken text.toList

theorem not_leaks_of_message {e : LinkError} (hmessage : ¬HoldsToken e.message.toList)
    (hsource : e.sourceText? = none) : ¬e.Leaks := by
  rintro (h | ⟨text, htext, -⟩)
  · exact hmessage h
  · rw [hsource] at htext
    cases htext

/-- A message of words and a text that holds no token. -/
theorem not_leaks_of_words {e : LinkError} {words text : String}
    (hmessage : e.message = words ++ text) (hcloses : Text.closes words = true)
    (hwords : ¬HoldsToken words.toList) (htext : ¬HoldsToken text.toList)
    (hsource : e.sourceText? = none) : ¬e.Leaks := by
  refine not_leaks_of_message ?_ hsource
  rw [hmessage, Text.holdsToken_append_of_closes hcloses]
  exact not_or.mpr ⟨hwords, htext⟩

end LinkError

/-! ## Pauses -/

theorem Duration.text_ofSeconds {n : Nat} (h : 0 < n) : (ofSeconds n).text = toString n ++ "s" := by
  have hle : Nat.pow 10 9 ≤ n * perSecond := Nat.le_mul_of_pos_left perSecond h
  have hpart : n * perSecond % Nat.pow 10 9 = 0 := Nat.mul_mod_left n perSecond
  have hwhole : n * perSecond / Nat.pow 10 9 = n := Nat.mul_div_cancel n (by decide)
  have hfraction : fractionText 9 0 = "" := by decide
  have hunit : inUnit 9 "s" (n * perSecond) = toString n ++ "s" := by
    rw [inUnit, hpart, hwhole, hfraction, if_pos (by decide), String.append_empty]
  unfold text
  exact (if_pos hle).trans hunit

theorem Duration.not_holdsToken_text_ofSeconds {n : Nat} (h : n < 2 ^ 64) :
    ¬HoldsToken (ofSeconds n).text.toList := by
  rcases Nat.eq_zero_or_pos n with rfl | hpos
  · decide
  · refine Text.not_holdsToken_of_length_lt ?_
    have hlength : (toString n).length ≤ 20 :=
      Decimal.length_toString_le (by decide) (h.trans (by decide))
    rw [text_ofSeconds hpos, String.length_toList, String.length_append, Text.tokenLength,
      (by decide : "s".length = 1)]
    omega

namespace Endpoint

open Web (Request Response)

theorem lt_of_retryAfter {r : Response} {d : Duration} (h : retryAfter r = some d) :
    ∃ n, n < 2 ^ 64 ∧ d = .ofSeconds n := by
  unfold retryAfter at h
  obtain ⟨v, -, h⟩ := Option.bind_eq_some_iff.mp h
  dsimp only at h
  split at h
  next =>
    obtain ⟨v, -, hv⟩ := Option.bind_eq_some_iff.mp h
    obtain ⟨n, -, hn⟩ := Option.bind_eq_some_iff.mp hv
    exact ⟨n.toNat, n.toNat_lt, (Option.some.inj hn).symm⟩
  next => cases h

theorem not_holdsToken_delayText (r : Response) :
    ¬HoldsToken (LinkError.delayText (retryAfter r)).toList := by
  cases h : retryAfter r with
  | none => decide
  | some d =>
    obtain ⟨n, hn, rfl⟩ := lt_of_retryAfter h
    have hd := Duration.not_holdsToken_text_ofSeconds hn
    exact Json.not_holdsToken_between (by decide) (by decide) (by decide) hd (by decide)

/-! ## Errors of a status -/

/-- The error of a status holds no token. -/
theorem not_leaks_checkStatus {r : Response} {e : LinkError} (h : checkStatus r = .error e) :
    ¬e.Leaks := by
  have hbody : ¬HoldsToken (Text.redact r.text).toList := Text.not_holdsToken_redact r.text
  cases checkStatus_eq_iff.mp h with
  | unauthenticated => exact LinkError.not_leaks_of_message (by decide) rfl
  | notFound | conflict =>
    exact LinkError.not_leaks_of_words rfl (by decide) (by decide) hbody rfl
  | rateLimited =>
    have hdelay := not_holdsToken_delayText r
    exact LinkError.not_leaks_of_words rfl (by decide) (by decide) hdelay rfl
  | other =>
    have hstatus : ¬HoldsToken
        ("Service returned error: " ++ toString r.status.toNat ++ " - ").toList :=
      Json.not_holdsToken_between (by decide) (by decide) (by decide)
        (not_holdsToken_nat (r.status.toNat_lt.trans (by decide))) (by decide)
    have hcloses : Text.closes
        ("Service returned error: " ++ toString r.status.toNat ++ " - ") = true := by
      rw [Text.closes_append _ (by decide)]
      decide
    exact LinkError.not_leaks_of_words rfl hcloses hstatus hbody rfl

/-! ## Errors of a body -/

/-- What cannot be read leaks only by what the decoder repeats. -/
theorem leaks_decodeBody_iff {α : Type} {codec : Json.Codec α} (hcodec : codec.Candid)
    {r : Response} {e : LinkError} (h : decodeBody codec r = .error e) :
    e.Leaks ↔ ∃ d, codec.decodeOctets r.body = .error d ∧ d.QuotesToken := by
  obtain ⟨d, hd, rfl⟩ := mapError_eq_error_iff.mp h
  have hcandid : d.Candid := by
    have hfails := Json.Codec.failsCandidly_decodeOctets hcodec r.body
    rw [hd] at hfails
    exact hfails
  have hwords : HoldsToken
      ("Failed to parse response: " ++ ("Failed to parse response body: " ++ d.message)).toList ↔
        HoldsToken d.message.toList := by
    rw [Text.holdsToken_append_of_closes (by decide), or_iff_right (by decide),
      Text.holdsToken_append_of_closes (by decide), or_iff_right (by decide)]
  constructor
  · rintro (hmessage | ⟨text, htext, hsource⟩)
    · exact ⟨d, hd, hcandid.mp (hwords.mp hmessage)⟩
    · rw [← Option.some.inj htext] at hsource
      exact absurd hsource (Text.not_holdsToken_redact r.text)
  · rintro ⟨d', hd', hquotes⟩
    rw [hd] at hd'
    rw [← Except.error.inj hd'] at hquotes
    exact Or.inl (hwords.mpr (hcandid.mpr hquotes))

/-! ## Errors of a client -/

namespace Call

variable {σ α β : Type}

theorem perform_ofOutcome (x : Outcome α) (s : σ) :
    (ofOutcome x).perform s = (x.mapError .failed, s) := by
  cases x <;> rfl

theorem error_ofOutcome_iff {x : Outcome α} {s : σ} {e : LinkError} :
    ((ofOutcome x).perform s).1 = .error (.failed e) ↔ x = .error e := by
  cases x <;> simp [perform_ofOutcome, ok_mapError, error_mapError]

theorem ok_bind_iff {x : Call σ α} {f : α → Call σ β} {s : σ} {b : β} :
    ((x >>= f).perform s).1 = .ok b ↔
      ∃ a, (x.perform s).1 = .ok a ∧ ((f a).perform (x.perform s).2).1 = .ok b := by
  rw [perform_bind]
  rcases x.perform s with ⟨stop | a, s'⟩ <;> simp

theorem error_bind_iff {x : Call σ α} {f : α → Call σ β} {s : σ} {stop : Stop} :
    ((x >>= f).perform s).1 = .error stop ↔ (x.perform s).1 = .error stop ∨
      ∃ a, (x.perform s).1 = .ok a ∧ ((f a).perform (x.perform s).2).1 = .error stop := by
  rw [perform_bind]
  rcases x.perform s with ⟨stop | a, s'⟩ <;> simp

end Call

namespace Client

variable {σ α : Type} {c : Client σ} {r : Request} {s : σ}

/-- The response of the transport to a request that is sent. -/
def Answered (c : Client σ) (r : Request) (s : σ) (response : Response) : Prop :=
  ∃ q, c.prepare r = .ok q ∧ ((c.transport q).perform s).1 = .ok response

/-- A failure of the transport itself leaks nothing. -/
def FailsUnleaked (c : Client σ) (r : Request) (s : σ) : Prop :=
  ∀ q e, c.prepare r = .ok q → ((c.transport q).perform s).1 = .error (.failed e) → ¬e.Leaks

theorem not_leaks_prepare {e : LinkError} (h : c.prepare r = .error e) : ¬e.Leaks := by
  unfold prepare at h
  dsimp only at h
  split at h
  next => cases h
  next =>
    split at h
    next => cases h
    next =>
      rw [← Except.error.inj h]
      exact LinkError.not_leaks_of_message (by decide) rfl

/-- A client on which no middleware has been put. -/
structure Bare (c : Client σ) : Prop where
  request : c.requestMiddleware = []
  response : c.responseMiddleware = []

theorem Bare.send_eq (h : c.Bare) (r : Request) :
    c.send r = Call.ofOutcome (c.prepare r) >>= fun q =>
      c.transport q >>= fun response => Call.ofOutcome (checkStatus response) := by
  unfold send
  rw [h.request, h.response]
  rfl

theorem Bare.send_ok_iff (h : c.Bare) {response : Response} :
    ((c.send r).perform s).1 = .ok response ↔
      c.Answered r s response ∧ response.isSuccess = true := by
  rw [h.send_eq, Call.ok_bind_iff]
  simp only [Call.ok_bind_iff, Call.perform_ofOutcome, mapError_eq_ok_iff, checkStatus_eq_ok_iff]
  constructor
  · rintro ⟨q, hq, answer, hanswer, hsuccess, rfl⟩
    exact ⟨⟨q, hq, hanswer⟩, hsuccess⟩
  · rintro ⟨⟨q, hq, hanswer⟩, hsuccess⟩
    exact ⟨q, hq, response, hanswer, hsuccess, rfl⟩

/-- An error of sending arose before the transport, in it, or from a status. -/
theorem Bare.error_send (h : c.Bare) {e : LinkError}
    (he : ((c.send r).perform s).1 = .error (.failed e)) :
    c.prepare r = .error e ∨
      (∃ q, c.prepare r = .ok q ∧ ((c.transport q).perform s).1 = .error (.failed e)) ∨
      ∃ response, checkStatus response = .error e := by
  rw [h.send_eq, Call.error_bind_iff, Call.error_ofOutcome_iff] at he
  simp only [Call.perform_ofOutcome, mapError_eq_ok_iff] at he
  rcases he with he | ⟨q, hq, he⟩
  · exact Or.inl he
  · rcases Call.error_bind_iff.mp he with he | ⟨response, -, he⟩
    · exact Or.inr (Or.inl ⟨q, hq, he⟩)
    · exact Or.inr (Or.inr ⟨response, Call.error_ofOutcome_iff.mp he⟩)

/-- An error of sending leaks nothing. -/
theorem Bare.not_leaks_send (h : c.Bare) (hown : c.FailsUnleaked r s) {e : LinkError}
    (he : ((c.send r).perform s).1 = .error (.failed e)) : ¬e.Leaks := by
  rcases h.error_send he with he | ⟨q, hq, he⟩ | ⟨response, he⟩
  · exact not_leaks_prepare he
  · exact hown q e hq he
  · exact not_leaks_checkStatus he

theorem Bare.not_leaks_sendEmpty (h : c.Bare) (hown : c.FailsUnleaked r s) {e : LinkError}
    (he : ((c.sendEmpty r).perform s).1 = .error (.failed e)) : ¬e.Leaks := by
  rcases Call.error_bind_iff.mp he with he | ⟨response, -, he⟩
  · exact h.not_leaks_send hown he
  · cases he

/-- An error of a typed call leaks exactly when the decoder repeats a token of the body. -/
theorem Bare.leaks_sendJson_iff (h : c.Bare) (hown : c.FailsUnleaked r s) {codec : Json.Codec α}
    (hcodec : codec.Candid) :
    (∃ e, ((c.sendJson codec r).perform s).1 = .error (.failed e) ∧ e.Leaks) ↔
      ∃ response d, c.Answered r s response ∧ response.isSuccess = true ∧
        codec.decodeOctets response.body = .error d ∧ d.QuotesToken := by
  constructor
  · rintro ⟨e, he, hleaks⟩
    rcases Call.error_bind_iff.mp he with he | ⟨response, hresponse, he⟩
    · exact absurd hleaks (h.not_leaks_send hown he)
    · obtain ⟨hanswered, hsuccess⟩ := h.send_ok_iff.mp hresponse
      obtain ⟨d, hd, hquotes⟩ :=
        (leaks_decodeBody_iff hcodec (Call.error_ofOutcome_iff.mp he)).mp hleaks
      exact ⟨response, d, hanswered, hsuccess, hd, hquotes⟩
  · rintro ⟨response, d, hanswered, hsuccess, hd, hquotes⟩
    have hbody : ∃ e, decodeBody codec response = .error e := by
      unfold decodeBody
      rw [hd]
      exact ⟨_, rfl⟩
    obtain ⟨e, he⟩ := hbody
    refine ⟨e, ?_, (leaks_decodeBody_iff hcodec he).mpr ⟨d, hd, hquotes⟩⟩
    have hresponse := h.send_ok_iff.mpr ⟨hanswered, hsuccess⟩
    exact Call.error_bind_iff.mpr (Or.inr ⟨response, hresponse, Call.error_ofOutcome_iff.mpr he⟩)

/-- The errors of a client without middleware leak no token, whatever the response, with one
exception: where the body of a success cannot be read as the type asked for and the error of the
decoder repeats a token of it, the error that is given back leaks it. -/
theorem leaks_iff_quotesToken (h : c.Bare) (hown : c.FailsUnleaked r s) :
    (∀ e, ((c.send r).perform s).1 = .error (.failed e) → ¬e.Leaks) ∧
      (∀ e, ((c.sendEmpty r).perform s).1 = .error (.failed e) → ¬e.Leaks) ∧
      ∀ T ∈ ExchangedType.all,
        (∃ e, ((c.sendJson T.2.codec r).perform s).1 = .error (.failed e) ∧ e.Leaks) ↔
          ∃ response d, c.Answered r s response ∧ response.isSuccess = true ∧
            T.2.codec.decodeOctets response.body = .error d ∧ d.QuotesToken :=
  ⟨fun _ he => h.not_leaks_send hown he, fun _ he => h.not_leaks_sendEmpty hown he,
    fun _ hT => h.leaks_sendJson_iff hown (ExchangedType.candid_of_mem_all _ hT)⟩

/-- A client over a script that nothing has been put on. -/
def scripted : Client Script where
  root := ⟨"https", "", some "[::1]", none, false, .segments ["api", "v1"], none, none⟩
  tenant := none
  credentials := none
  transport := Script.transport
  requestMiddleware := []
  responseMiddleware := []

/-- A script that answers with success and a string of one token. -/
def tokenScript : Script :=
  Script.new
    [.respond ⟨200, [], Text.octets "\"ABCDEFGHIJKLMNOPQRSTUVWXYZ0123456789\""⟩]

theorem failsUnleaked_scripted (r : Request) : scripted.FailsUnleaked r tokenScript := by
  intro q e _ he
  have hanswer : ((scripted.transport q).perform tokenScript).1 = tokenScript.next := rfl
  rw [hanswer] at he
  cases he

theorem leaks_iff_quotesToken_scripted :
    (∀ e, ((scripted.send (scripted.request .get [])).perform tokenScript).1 =
        .error (.failed e) → ¬e.Leaks) ∧
      (∀ e, ((scripted.sendEmpty (scripted.request .get [])).perform tokenScript).1 =
        .error (.failed e) → ¬e.Leaks) ∧
      ∀ T ∈ ExchangedType.all,
        (∃ e, ((scripted.sendJson T.2.codec (scripted.request .get [])).perform tokenScript).1 =
            .error (.failed e) ∧ e.Leaks) ↔
          ∃ response d, scripted.Answered (scripted.request .get []) tokenScript response ∧
            response.isSuccess = true ∧
            T.2.codec.decodeOctets response.body = .error d ∧ d.QuotesToken :=
  leaks_iff_quotesToken ⟨rfl, rfl⟩ (failsUnleaked_scripted _)

/-- Where the state of an instance is asked for, the token stands in the message. -/
theorem leaks_unknown_state :
    ∃ e, ((scripted.getJson Workflow.InstanceState.codec []).perform tokenScript).1 =
      .error (.failed e) ∧ e.Leaks := by
  have hread : Workflow.InstanceState.codec.decodeOctets
      (Text.octets "\"ABCDEFGHIJKLMNOPQRSTUVWXYZ0123456789\"") =
        .error (.unknownVariant "ABCDEFGHIJKLMNOPQRSTUVWXYZ0123456789"
          ["Executing", "Waiting", "Halted", "Success", "Failed"]) := by
    rfl
  have hbare : scripted.Bare := ⟨rfl, rfl⟩
  have hown := failsUnleaked_scripted (scripted.request .get [])
  refine (hbare.leaks_sendJson_iff hown Workflow.InstanceState.candid_codec).mpr ?_
  exact ⟨_, _, ⟨_, rfl, rfl⟩, by decide, hread, _, rfl, by decide⟩

end Client

end Endpoint

end PlatformLink
