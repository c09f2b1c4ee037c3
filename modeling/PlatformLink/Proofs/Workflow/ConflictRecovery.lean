import PlatformLink.Proofs.Workflow.StoreSteps
import PlatformLink.Proofs.Workflow.SummaryService

/-!
# Recovery from conflicts

What creates or updates goes on to update after a conflict and after nothing else, whatever the
store is. A noted store notes what it is asked to do, so that steps can be counted.

Over a client a conflict is the status of an answer, or it is the transport that fails with it.
`ComesTo` lists what each answer comes to: no other answer is taken for a conflict, and none that is
one is missed. `Upserting` then tells, request by request, what can happen to a call.
-/

namespace PlatformLink.Workflow

open Endpoint (Call Client Script Stop checkStatus checked_checkStatus retryAfter)
open Web (Method Request Response)

variable {σ α : Type}

/-! ## Any store -/

/-- A result by which something is there already. -/
def IsConflict (r : Except Stop α) : Prop :=
  ∃ what, r = .error (.failed (.conflict what))

/-- A call that notes a step and does what it did before. -/
def noting (step : StoreStep) (x : Call σ α) : Call (σ × List StoreStep) α := fun s =>
  ((x.perform s.1).1, (x.perform s.1).2, s.2 ++ [step])

namespace SummaryStore

/-- A store that notes what it is asked to do. -/
def noted (store : SummaryStore σ) : SummaryStore (σ × List StoreStep) where
  create key v := noting (.create key v) (store.create key v)
  update key v := noting (.update key v) (store.update key v)
  read key := noting (.read key) (store.read key)

/-- What a store is asked to do by a call that creates or updates, in the order of the steps. -/
def upsertSteps (store : SummaryStore σ) (key : SummaryKey) (v : WorkflowSummary) (s : σ) :
    List StoreStep :=
  ((store.noted.createOrUpdate key v).perform (s, [])).2.2

variable {store : SummaryStore σ} {key : SummaryKey} {v : WorkflowSummary} {s s' : σ}
  {r : Except Stop Unit}

theorem upsert_of_conflict (hcreate : (store.create key v).perform s = (r, s'))
    (h : IsConflict r) :
    (store.createOrUpdate key v).perform s = (store.update key v).perform s' := by
  obtain ⟨what, rfl⟩ := h
  rw [createOrUpdate, Call.perform_tryCatch, hcreate]

theorem upsert_of_not_conflict (hcreate : (store.create key v).perform s = (r, s'))
    (h : ¬IsConflict r) : (store.createOrUpdate key v).perform s = (r, s') := by
  rw [createOrUpdate, Call.perform_tryCatch, hcreate]
  obtain (e | _) | _ := r
  · cases e with
    | conflict what => exact absurd ⟨what, rfl⟩ h
    | _ => rfl
  · rfl
  · rfl

end SummaryStore

/-- How any store creates or updates: it creates once, and it updates, once, after a conflict. -/
structure RecoversConflict (store : SummaryStore σ) (key : SummaryKey) (v : WorkflowSummary)
    (s : σ) : Prop where
  /-- That steps are noted changes nothing. -/
  unchanged : (store.noted.createOrUpdate key v).perform (s, []) =
    (((store.createOrUpdate key v).perform s).1, ((store.createOrUpdate key v).perform s).2,
      store.upsertSteps key v s)
  conflict : IsConflict ((store.create key v).perform s).1 →
    (store.createOrUpdate key v).perform s =
        (store.update key v).perform ((store.create key v).perform s).2 ∧
      store.upsertSteps key v s = [.create key v, .update key v]
  otherwise : ¬IsConflict ((store.create key v).perform s).1 →
    (store.createOrUpdate key v).perform s = (store.create key v).perform s ∧
      store.upsertSteps key v s = [.create key v]

theorem recoversConflict (store : SummaryStore σ) (key : SummaryKey) (v : WorkflowSummary) (s : σ) :
    RecoversConflict store key v s := by
  by_cases h : IsConflict ((store.create key v).perform s).1
  · have hplain := SummaryStore.upsert_of_conflict rfl h
    have hnoted : (store.noted.createOrUpdate key v).perform (s, []) = _ :=
      SummaryStore.upsert_of_conflict rfl h
    have hsteps : store.upsertSteps key v s = [.create key v, .update key v] := by
      rw [SummaryStore.upsertSteps, hnoted]
      rfl
    refine ⟨?_, fun _ => ⟨hplain, hsteps⟩, fun hnot => absurd h hnot⟩
    rw [hnoted, hplain, hsteps]
    rfl
  · have hplain := SummaryStore.upsert_of_not_conflict rfl h
    have hnoted : (store.noted.createOrUpdate key v).perform (s, []) = _ :=
      SummaryStore.upsert_of_not_conflict rfl h
    have hsteps : store.upsertSteps key v s = [.create key v] := by
      rw [SummaryStore.upsertSteps, hnoted]
      rfl
    refine ⟨?_, fun hconflict => absurd hconflict h, fun _ => ⟨hplain, hsteps⟩⟩
    rw [hnoted, hplain, hsteps]
    rfl

/-! ## What an answer comes to -/

/-- What comes of the answer to a request that writes. -/
inductive ComesTo : Except Stop Response → Except Stop Unit → Prop where
  | stopped (stop : Stop) : ComesTo (.error stop) (.error stop)
  | done {r : Response} (h : 200 ≤ r.status ∧ r.status < 300) : ComesTo (.ok r) (.ok ())
  | unauthenticated {r : Response} (h : r.status = 401) :
      ComesTo (.ok r) (.error (.failed .unauthenticated))
  | notFound {r : Response} (h : r.status = 404) :
      ComesTo (.ok r) (.error (.failed (.notFound (.reported (Text.redact r.text)))))
  | conflict {r : Response} (h : r.status = 409) :
      ComesTo (.ok r) (.error (.failed (.conflict (.reported (Text.redact r.text)))))
  | rateLimited {r : Response} (h : r.status = 429) :
      ComesTo (.ok r) (.error (.failed (.rateLimited (retryAfter r))))
  | refused {r : Response} (h : ¬(200 ≤ r.status ∧ r.status < 300))
      (hother : r.status ∉ [401, 404, 409, 429]) :
      ComesTo (.ok r) (.error (.failed (.api r.status (Text.redact r.text) none)))

/-- An answer by which the key is taken: by its status, or because the transport fails so. -/
def SaysTaken (answer : Except Stop Response) : Prop :=
  (∃ r, answer = .ok r ∧ r.status = 409) ∨ IsConflict answer

theorem saysTaken_ok_iff {r : Response} : SaysTaken (.ok r) ↔ r.status = 409 := by
  simp [SaysTaken, IsConflict]

theorem saysTaken_error_iff {stop : Stop} :
    SaysTaken (.error stop) ↔ IsConflict (.error stop : Except Stop Unit) := by
  simp [SaysTaken, IsConflict]

namespace ComesTo

variable {answer : Except Stop Response} {result : Except Stop Unit}

/-- A call gives a conflict just where the answer is one. -/
theorem isConflict_iff (h : ComesTo answer result) : IsConflict result ↔ SaysTaken answer := by
  cases h with
  | stopped stop => exact saysTaken_error_iff.symm
  | done h =>
    rw [saysTaken_ok_iff]
    refine iff_of_false nofun fun h409 => ?_
    rw [h409] at h
    revert h
    decide
  | conflict h => exact iff_of_true ⟨_, rfl⟩ (saysTaken_ok_iff.mpr h)
  | unauthenticated h | notFound h | rateLimited h =>
    rw [saysTaken_ok_iff, h]
    exact iff_of_false (by rintro ⟨what, ⟨⟩⟩) (by decide)
  | refused h hother =>
    rw [saysTaken_ok_iff]
    refine iff_of_false (by rintro ⟨what, ⟨⟩⟩) fun h409 => ?_
    rw [h409] at hother
    exact hother (by decide)

end ComesTo

theorem comesTo_conclude (method : Method) (key : SummaryKey) (v : WorkflowSummary)
    (answer : Except Stop Response) :
    ComesTo answer ((storing method key v).conclude answer) := by
  rw [Inquiry.conclude, Inquiry.settle_of_absent?_eq_none rfl]
  cases answer with
  | error stop => exact .stopped stop
  | ok r =>
    have hchecked := checked_checkStatus r
    change ComesTo (.ok r) ((checkStatus r >>= Operation.done).mapError .failed)
    generalize checkStatus r = result at hchecked ⊢
    cases hchecked with
    | success h => exact .done (Response.isSuccess_iff.mp h)
    | unauthenticated h => exact .unauthenticated h
    | notFound h => exact .notFound h
    | conflict h => exact .conflict h
    | rateLimited h => exact .rateLimited h
    | other h hother =>
      refine .refused ?_ hother
      rw [← Response.isSuccess_iff]
      exact Bool.eq_false_iff.mp h

/-! ## Over a client -/

/-- A key of which an identifier is blank. -/
def SummaryKey.IsBlank (key : SummaryKey) : Prop :=
  Text.isBlank key.formId = true ∨ Text.isBlank key.instanceId = true

/-- A request by which a client writes a summary under a key. -/
structure WritesSummary (c : Client σ) (method : Method) (key : SummaryKey) (v : WorkflowSummary)
    (r : Request) : Prop where
  method : r.method = method
  url : r.url = c.urlFor (Remote.summaryPath key)
  body : r.body = some (WorkflowSummary.codec.toJson v)

/-- What a client may send when it creates or updates, what then comes of the call, and what is left
of the transport. -/
inductive Upserting (c : Client σ) (key : SummaryKey) (v : WorkflowSummary) (s : σ) :
    List Request → Except Stop Unit → σ → Prop where
  | blankForm (h : Text.isBlank key.formId = true) :
      Upserting c key v s [] (.error (.failed (.validation (.emptyId "summary" "form id")))) s
  | blankInstance (hform : Text.isBlank key.formId = false)
      (h : Text.isBlank key.instanceId = true) :
      Upserting c key v s [] (.error (.failed (.validation (.emptyId "summary" "instance id")))) s
  | settled {post : Request} {answer : Except Stop Response} {result : Except Stop Unit} {s' : σ}
      (hkey : ¬key.IsBlank) (hpost : WritesSummary c .post key v post)
      (hanswer : (c.transport post).perform s = (answer, s')) (hfree : ¬SaysTaken answer)
      (hresult : ComesTo answer result) : Upserting c key v s [post] result s'
  | recovered {post put : Request} {answer last : Except Stop Response}
      {result : Except Stop Unit} {s₁ s' : σ} (hkey : ¬key.IsBlank)
      (hpost : WritesSummary c .post key v post)
      (hanswer : (c.transport post).perform s = (answer, s₁)) (htaken : SaysTaken answer)
      (hput : WritesSummary c .put key v put)
      (hlast : (c.transport put).perform s₁ = (last, s')) (hresult : ComesTo last result) :
      Upserting c key v s [post, put] result s'

namespace Upserting

variable {c : Client σ} {key : SummaryKey} {v : WorkflowSummary} {s s' : σ}
  {requests : List Request} {result : Except Stop Unit}

/-- Nothing is sent just where an identifier is blank. -/
theorem eq_nil_iff (h : Upserting c key v s requests result s') : requests = [] ↔ key.IsBlank := by
  cases h with
  | blankForm h => exact iff_of_true rfl (.inl h)
  | blankInstance _ h => exact iff_of_true rfl (.inr h)
  | settled hkey => exact iff_of_false (List.cons_ne_nil _ _) hkey
  | recovered hkey => exact iff_of_false (List.cons_ne_nil _ _) hkey

theorem length_le (h : Upserting c key v s requests result s') : requests.length ≤ 2 := by
  cases h <;> simp

/-- A summary is replaced just where the first request was answered by a conflict. -/
theorem put_mem_iff (h : Upserting c key v s requests result s') :
    (∃ r ∈ requests, r.method = .put) ↔
      ∃ post ∈ requests.head?, SaysTaken ((c.transport post).perform s).1 := by
  cases h with
  | blankForm | blankInstance => simp
  | settled _ hpost hanswer hfree =>
    have hmethod : Method.post ≠ .put := by decide
    simpa [hpost.method, hanswer, hmethod] using hfree
  | recovered _ _ hanswer htaken hput => simp [hput.method, hanswer, htaken]

/-- All that is sent has one URL and one body. -/
theorem same_of_mem (h : Upserting c key v s requests result s') {r : Request}
    (hr : r ∈ requests) :
    r.url = c.urlFor (Remote.summaryPath key) ∧
      r.body = some (WorkflowSummary.codec.toJson v) := by
  cases h with
  | blankForm | blankInstance => cases hr
  | settled _ hpost =>
    rw [List.mem_singleton.mp hr]
    exact ⟨hpost.url, hpost.body⟩
  | recovered _ hpost _ _ hput =>
    rcases List.mem_pair.mp hr with rfl | rfl
    · exact ⟨hpost.url, hpost.body⟩
    · exact ⟨hput.url, hput.body⟩

end Upserting

section

variable {c : Client σ} {key : SummaryKey} {v : WorkflowSummary}

theorem writesSummary_sent (c : Client σ) (method : Method) (key : SummaryKey)
    (v : WorkflowSummary) : WritesSummary c method key v ((storing method key v).sent c) where
  method := by
    rw [Inquiry.sent, Client.method_prepared, Inquiry.method_request]
    rfl
  url := by
    rw [Inquiry.sent, Client.url_prepared]
    rfl
  body := by
    rw [Inquiry.sent, Client.body_prepared, Inquiry.body_request]
    rfl

/-- Why nothing is written under a key. -/
theorem refusal?_storing (method : Method) (key : SummaryKey) (v : WorkflowSummary) :
    (storing method key v).refusal? =
      if Text.isBlank key.formId then some (.emptyId "summary" "form id")
      else if Text.isBlank key.instanceId then some (.emptyId "summary" "instance id")
      else none := by
  have hservice : ServiceName.summary.text = "summary" := rfl
  cases hform : Text.isBlank key.formId <;> cases hinstance : Text.isBlank key.instanceId <;>
    simp [Inquiry.refusal?, storing, Operation.keyIds, hform, hinstance, hservice]

theorem refusal?_storing_of_not_blank (method : Method) (h : ¬key.IsBlank) :
    (storing method key v).refusal? = none := by
  obtain ⟨hform, hinstance⟩ := not_or.mp h
  rw [refusal?_storing, if_neg hform, if_neg hinstance]

/-- What writes over a bare client is answered once, whether or not it is recorded. -/
theorem perform_storing (hbare : c.Bare) (hlegal : c.LegalCredentials) {method : Method}
    (hkey : ¬key.IsBlank) {answer : Except Stop Response} {s s' : σ}
    (hanswer : (c.transport ((storing method key v).sent c)).perform s = (answer, s'))
    (seen : List Request) :
    ((storing method key v).call c).perform s = ((storing method key v).conclude answer, s') ∧
      ((storing method key v).call c.recorded).perform (s, seen) =
        ((storing method key v).conclude answer, s', seen ++ [(storing method key v).sent c]) := by
  have hnone := refusal?_storing_of_not_blank (v := v) method hkey
  constructor
  · rw [Inquiry.perform_call_of_bare hbare hlegal hnone, hanswer]
  · refine (Inquiry.perform_call_of_bare hbare.recorded hlegal.recorded hnone (s, seen)).trans ?_
    change (Inquiry.conclude _ ((c.transport ((storing method key v).sent c)).perform s).1,
      ((c.transport ((storing method key v).sent c)).perform s).2, _) = _
    rw [hanswer]
    rfl

/-- What is refused is no conflict, so that is the end of it. -/
theorem upsert_of_refusal {fault : ValidationFault}
    (h : (storing .post key v).refusal? = some fault) (s : σ) :
    ((Remote.summaryStore c).createOrUpdate key v).perform s =
      (.error (.failed (.validation fault)), s) := by
  refine SummaryStore.upsert_of_not_conflict ?_ (by rintro ⟨what, ⟨⟩⟩)
  rw [create_eq_call, Inquiry.call, h]
  rfl

/-- A client that creates or updates does one of what it may do, whether or not it is recorded. -/
theorem exists_upserting (hbare : c.Bare) (hlegal : c.LegalCredentials) (key : SummaryKey)
    (v : WorkflowSummary) (s : σ) :
    ∃ requests result s', Upserting c key v s requests result s' ∧
      ((Remote.summaryStore c).createOrUpdate key v).perform s = (result, s') ∧
      ((Remote.summaryStore c.recorded).createOrUpdate key v).perform (s, []) =
        (result, s', requests) := by
  have hrefusal := refusal?_storing .post key v
  by_cases hform : Text.isBlank key.formId = true
  · rw [if_pos hform] at hrefusal
    exact ⟨_, _, _, .blankForm hform, upsert_of_refusal hrefusal s, upsert_of_refusal hrefusal _⟩
  by_cases hinstance : Text.isBlank key.instanceId = true
  · rw [if_neg hform, if_pos hinstance] at hrefusal
    exact ⟨_, _, _, .blankInstance (Bool.eq_false_iff.mpr hform) hinstance,
      upsert_of_refusal hrefusal s, upsert_of_refusal hrefusal _⟩
  have hkey : ¬key.IsBlank := not_or.mpr ⟨hform, hinstance⟩
  have hpost := writesSummary_sent c .post key v
  rcases hanswer : (c.transport ((storing .post key v).sent c)).perform s with ⟨answer, s₁⟩
  obtain ⟨hcreate, hcreateRecorded⟩ := perform_storing hbare hlegal hkey hanswer []
  rw [← create_eq_call] at hcreate hcreateRecorded
  have hcomes := comesTo_conclude .post key v answer
  by_cases htaken : SaysTaken answer
  · have hconflict := hcomes.isConflict_iff.mpr htaken
    have hput := writesSummary_sent c .put key v
    rcases hlast : (c.transport ((storing .put key v).sent c)).perform s₁ with ⟨last, s'⟩
    have hlastComes := comesTo_conclude .put key v last
    obtain ⟨hupdate, hupdateRecorded⟩ := perform_storing hbare hlegal hkey hlast
      [(storing .post key v).sent c]
    rw [← update_eq_call] at hupdate hupdateRecorded
    exact ⟨_, _, s', .recovered hkey hpost hanswer htaken hput hlast hlastComes,
      (SummaryStore.upsert_of_conflict hcreate hconflict).trans hupdate,
      (SummaryStore.upsert_of_conflict hcreateRecorded hconflict).trans hupdateRecorded⟩
  · have hfree := hcomes.isConflict_iff.not.mpr htaken
    exact ⟨_, _, s₁, .settled hkey hpost hanswer htaken hcomes,
      SummaryStore.upsert_of_not_conflict hcreate hfree,
      SummaryStore.upsert_of_not_conflict hcreateRecorded hfree⟩

/-- The requests that a client sends when it creates or updates. -/
def upsertRequests (c : Client σ) (key : SummaryKey) (v : WorkflowSummary) (s : σ) : List Request :=
  (((Remote.summaryStore c.recorded).createOrUpdate key v).perform (s, [])).2.2

end

/-- How a client creates or updates over whatever its transport answers. -/
structure UpsertsOver (c : Client σ) (key : SummaryKey) (v : WorkflowSummary) (s : σ) : Prop where
  /-- A record changes nothing. -/
  unchanged : ((Remote.summaryStore c.recorded).createOrUpdate key v).perform (s, []) =
    ((((Remote.summaryStore c).createOrUpdate key v).perform s).1,
      (((Remote.summaryStore c).createOrUpdate key v).perform s).2, upsertRequests c key v s)
  course : Upserting c key v s (upsertRequests c key v s)
    (((Remote.summaryStore c).createOrUpdate key v).perform s).1
    (((Remote.summaryStore c).createOrUpdate key v).perform s).2
  silent_iff : upsertRequests c key v s = [] ↔ key.IsBlank
  put_iff : (∃ r ∈ upsertRequests c key v s, r.method = .put) ↔
    ∃ post ∈ (upsertRequests c key v s).head?, SaysTaken ((c.transport post).perform s).1
  same : ∀ r ∈ upsertRequests c key v s, r.url = c.urlFor (Remote.summaryPath key) ∧
    r.body = some (WorkflowSummary.codec.toJson v)
  at_most_two : (upsertRequests c key v s).length ≤ 2

theorem upsertsOver {c : Client σ} (hbare : c.Bare) (hlegal : c.LegalCredentials)
    (key : SummaryKey) (v : WorkflowSummary) (s : σ) : UpsertsOver c key v s := by
  obtain ⟨requests, result, s', hcourse, hplain, hrecorded⟩ :=
    exists_upserting hbare hlegal key v s
  have hrequests : upsertRequests c key v s = requests := by rw [upsertRequests, hrecorded]
  have hupserting : Upserting c key v s (upsertRequests c key v s)
      (((Remote.summaryStore c).createOrUpdate key v).perform s).1
      (((Remote.summaryStore c).createOrUpdate key v).perform s).2 := by
    rw [hrequests, hplain]
    exact hcourse
  exact {
    unchanged := by rw [hrequests, hplain, hrecorded]
    course := hupserting
    silent_iff := hupserting.eq_nil_iff
    put_iff := hupserting.put_mem_iff
    same _ hr := hupserting.same_of_mem hr
    at_most_two := hupserting.length_le }

/-- Whatever the store is, a conflict and nothing else makes it update what it could not create.
Over a client that rewrites nothing, the conflict may come from the status of the answer or from the
transport, and every other answer is what the call comes to. -/
theorem recovers_conflict_only (key : SummaryKey) (v : WorkflowSummary) :
    (∀ {τ : Type} (store : SummaryStore τ) (t : τ), RecoversConflict store key v t) ∧
      ∀ {σ : Type} {c : Client σ}, c.Bare → c.LegalCredentials → ∀ s, UpsertsOver c key v s :=
  ⟨fun store t => recoversConflict store key v t,
    fun hbare hlegal s => upsertsOver hbare hlegal key v s⟩

/-- A table and a service that hold a summary under the key already. -/
theorem recovers_conflict_only_held :
    let c : Client Script := { Client.scripted with credentials := some ⟨"secret"⟩ }
    let key := WorkflowSummary.waiting.key
    let script := Script.new [.respond ⟨409, [], []⟩]
    c.Bare ∧ c.LegalCredentials ∧
      RecoversConflict SummaryTable.store key .waiting ⟨[(key, .waiting)]⟩ ∧
      UpsertsOver c key .waiting script ∧
      (upsertRequests c key .waiting script).map (·.method) = [.post, .put] := by
  intro c key script
  have hbare : c.Bare := ⟨rfl, rfl⟩
  have hlegal : c.LegalCredentials := by
    intro credentials h
    rw [← Option.some.inj h]
    decide
  obtain ⟨hstore, hclient⟩ := recovers_conflict_only key .waiting
  exact ⟨hbare, hlegal, hstore SummaryTable.store _, hclient hbare hlegal script, by decide⟩

end PlatformLink.Workflow
