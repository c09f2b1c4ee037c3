import Mathlib.Logic.Function.Basic
import PlatformLink.Proofs.Link.Address
import PlatformLink.Proofs.Link.Inquiry
import PlatformLink.Proofs.Web.KeptTexts
import PlatformLink.Proofs.Workflow.SummaryText

/-!
# The service behind a summary store

The service keeps a value for each URL. It adds one where there is none, replaces one where there
is one, and gives back what it keeps. Each call of the store over a client is one request to it, and
the status of its answer comes back as the error that it stands for. Keys that are let pass and kept
have URLs of their own.
-/

namespace PlatformLink.Workflow

open Endpoint (Call Client Stop Transport)
open Web (IsKept Method Request Response)

/-! ## What the service does -/

/-- What may be asked of the service about a URL. -/
inductive Demand where
  | add (v : Json)
  | replace (v : Json)
  | get

def Demand.method : Demand → Method
  | add _ => .post
  | replace _ => .put
  | get => .get

def Demand.body? : Demand → Option Json
  | add v | replace v => some v
  | get => none

/-- What may be answered, given what is kept at the URL, and what is kept then. -/
inductive Reacts (answer : Response) : Demand → Option Json → Option Json → Prop where
  | created {v : Json} (h : answer.isSuccess = true) (hbody : answer.body = []) :
      Reacts answer (.add v) none (some v)
  | taken {v old : Json} (h : answer.status = 409) : Reacts answer (.add v) (some old) (some old)
  | replaced {v old : Json} (h : answer.isSuccess = true) (hbody : answer.body = []) :
      Reacts answer (.replace v) (some old) (some v)
  | missing {v : Json} (h : answer.status = 404) : Reacts answer (.replace v) none none
  | found {old : Json} (h : answer.status = 200) (hbody : answer.body = Text.octets old.write) :
      Reacts answer .get (some old) (some old)
  | absent (h : answer.status = 404) : Reacts answer .get none none

/-- A transport to a service that keeps a value for each URL: what it keeps at others is left as it
is. -/
def Serves {σ : Type} (t : Transport σ) (held : σ → String → Option Json) : Prop :=
  ∀ (d : Demand) (r : Request) s, r.method = d.method → r.body = d.body? → ∃ answer left,
    ((t r).perform s).1 = .ok answer ∧ Reacts answer d (held s r.url.text) left ∧
      held ((t r).perform s).2 = Function.update (held s) r.url.text left

/-- A service that is nothing but what it keeps. -/
def shelf : Transport (String → Option Json) := fun r held =>
  let url := r.url.text
  match r.body, held url with
  | some v, none =>
    if r.method = .post then (.ok ⟨201, [], []⟩, Function.update held url (some v))
    else (.ok ⟨404, [], []⟩, held)
  | some v, some _ =>
    if r.method = .put then (.ok ⟨204, [], []⟩, Function.update held url (some v))
    else (.ok ⟨409, [], []⟩, held)
  | none, some v => (.ok ⟨200, [], Text.octets v.write⟩, held)
  | none, none => (.ok ⟨404, [], []⟩, held)

theorem serves_shelf : Serves shelf id := by
  intro d r held hmethod hbody
  change ∃ answer left, (shelf r held).1 = .ok answer ∧ Reacts answer d (held r.url.text) left ∧
    (shelf r held).2 = Function.update held r.url.text left
  have hself {o : Option Json} (h : held r.url.text = o) :
      Function.update held r.url.text o = held := by
    rw [← h, Function.update_eq_self]
  have hput : Web.Method.post ≠ .put := by decide
  cases d with
  | add v =>
    cases hheld : held r.url.text with
    | none =>
      refine ⟨⟨201, [], []⟩, some v, ?_, .created (by decide) rfl, ?_⟩ <;>
        simp [shelf, hmethod, hbody, hheld, Demand.method, Demand.body?]
    | some old =>
      refine ⟨⟨409, [], []⟩, some old, ?_, .taken rfl, ?_⟩ <;>
        simp [shelf, hmethod, hbody, hheld, Demand.method, Demand.body?, hput, hself hheld]
  | replace v =>
    cases hheld : held r.url.text with
    | none =>
      refine ⟨⟨404, [], []⟩, none, ?_, .missing rfl, ?_⟩ <;>
        simp [shelf, hmethod, hbody, hheld, Demand.method, Demand.body?, hput.symm, hself hheld]
    | some old =>
      refine ⟨⟨204, [], []⟩, some v, ?_, .replaced (by decide) rfl, ?_⟩ <;>
        simp [shelf, hmethod, hbody, hheld, Demand.method, Demand.body?]
  | get =>
    cases hheld : held r.url.text with
    | none =>
      refine ⟨⟨404, [], []⟩, none, ?_, .absent rfl, ?_⟩ <;>
        simp [shelf, hbody, hheld, Demand.body?, hself hheld]
    | some old =>
      refine ⟨⟨200, [], Text.octets old.write⟩, some old, ?_, .found rfl rfl, ?_⟩ <;>
        simp [shelf, hbody, hheld, Demand.body?, hself hheld]

/-! ## Keys and their URLs -/

/-- A key of which no identifier is blank and the path keeps all. -/
structure SummaryKey.Admitted (key : SummaryKey) : Prop where
  form : Text.isBlank key.formId = false
  instanceId : Text.isBlank key.instanceId = false
  formKept : IsKept key.formId
  instanceKept : IsKept key.instanceId

section

variable {σ : Type} {c : Client σ} {key other : SummaryKey}

/-- Where the summary of a key lies, as it is written. -/
def summaryUrl (c : Client σ) (key : SummaryKey) : String :=
  (c.urlFor (Remote.summaryPath key)).text

theorem SummaryKey.Admitted.kept (h : key.Admitted) :
    ∀ s ∈ [key.formId, toString key.majorVersion.toNat, key.instanceId], IsKept s := by
  intro s hs
  simp only [List.mem_cons, List.not_mem_nil, or_false] at hs
  rcases hs with rfl | rfl | rfl
  · exact h.formKept
  · exact (plain_toString _).isKept
  · exact h.instanceKept

theorem leadingDrive?_summaries (u : Web.Url) :
    Web.leadingDrive? u.segmentPart "Summaries".toList = none := by
  unfold Web.Url.segmentPart
  split <;> decide

/-- Different keys have different URLs. -/
theorem summaryUrl_inj (hroot : Endpoint.AnyRoot c.root) (h : key.Admitted) (h' : other.Admitted)
    (heq : summaryUrl c key = summaryUrl c other) : key = other := by
  obtain ⟨ss, hpath⟩ := hroot.segments
  -- The name in front is no drive, so this holds for the roots of files as well.
  have hname : IsKept "Summaries" := by decide
  have htexts := Web.Url.texts_eq_of_text_eq hpath hname (by decide)
    (leadingDrive?_summaries c.root) h.kept h'.kept (Client.extendPath?_root hroot _)
    (Client.extendPath?_root hroot _) heq
  obtain ⟨form, major, inst⟩ := key
  obtain ⟨form', major', inst'⟩ := other
  simp only [List.cons.injEq, and_true] at htexts
  obtain ⟨rfl, hmajor, rfl⟩ := htexts
  rw [UInt32.toNat_inj.mp (toString_injective hmajor)]

theorem SummaryKey.Admitted.refusal?_eq_none {α : Type} {i : Inquiry α} (h : key.Admitted)
    (hids : i.ids = Operation.keyIds key) (hlimit : i.limit? = none) : i.refusal? = none := by
  simp [Inquiry.refusal?, hids, hlimit, Operation.keyIds, h.form, h.instanceId]

end

/-! ## Calls of the store -/

/-- What writes a summary. -/
def storing (method : Method) (key : SummaryKey) (s : WorkflowSummary) : Inquiry Unit where
  service := .summary
  ids := Operation.keyIds key
  method := method
  segments := Remote.summaryPath key
  body? := some (WorkflowSummary.codec.toJson s)
  decode := Operation.done

section

variable {method : Method} {key : SummaryKey} {v : WorkflowSummary} {answer : Response}

theorem conclude_storing_of_success (h : answer.isSuccess = true) :
    (storing method key v).conclude (.ok answer) = .ok () :=
  Inquiry.conclude_of_checked _ (.success h)

theorem conclude_storing_of_conflict (h : answer.status = 409) :
    ∃ what, (storing method key v).conclude (.ok answer) = .error (.failed (.conflict what)) :=
  ⟨_, Inquiry.conclude_of_checked _ (.conflict h)⟩

theorem conclude_storing_of_notFound (h : answer.status = 404) :
    ∃ what, (storing method key v).conclude (.ok answer) = .error (.failed (.notFound what)) :=
  ⟨_, Inquiry.conclude_of_checked _ (.notFound h)⟩

theorem conclude_reading_of_notFound (h : answer.status = 404) :
    (Operation.summaryInquiry key).orNone.conclude (.ok answer) = .ok none :=
  Inquiry.conclude_of_checked _ (.notFound h)

/-- The text of a summary that can be held is read as the summary. -/
theorem conclude_reading_of_success (h : answer.status = 200) (hv : v.Storable)
    (hbody : answer.body = Text.octets (WorkflowSummary.codec.toJson v).write) :
    (Operation.summaryInquiry key).orNone.conclude (.ok answer) = .ok (some v) := by
  have hsuccess : answer.isSuccess = true := by simp [Response.isSuccess, h]
  have hdecode : Endpoint.decodeBody WorkflowSummary.codec answer = .ok v := by
    rw [Endpoint.decodeBody, hbody]
    exact congrArg _ hv.decode_write
  have hread : (Operation.summaryInquiry key).orNone.decode answer = .ok (some v) :=
    congrArg (some <$> ·) hdecode
  rw [Inquiry.conclude_of_checked _ (.success hsuccess), ok_bind, hread]
  rfl

end

section

variable {σ : Type} {c : Client σ}

theorem create_eq_call (key : SummaryKey) (s : WorkflowSummary) :
    (Remote.summaryStore c).create key s = (storing .post key s).call c :=
  Operation.call_eq (show (Operation.createStored key s).inquiry? = some (storing .post key s) from
    rfl)

theorem update_eq_call (key : SummaryKey) (s : WorkflowSummary) :
    (Remote.summaryStore c).update key s = (storing .put key s).call c :=
  Operation.call_eq (show (Operation.updateStored key s).inquiry? = some (storing .put key s) from
    rfl)

theorem read_eq_call (key : SummaryKey) :
    (Remote.summaryStore c).read key = (Operation.summaryInquiry key).orNone.call c :=
  Operation.call_eq (show (Operation.readStored key).inquiry? =
    some (Operation.summaryInquiry key).orNone from rfl)

end

/-- A client on which nothing has been put, with credentials that it can write, over the service. -/
structure Connected {σ : Type} (c : Client σ) (held : σ → String → Option Json) : Prop
    extends c.Bare where
  root : Endpoint.AnyRoot c.root
  legal : c.LegalCredentials
  serves : Serves c.transport held

namespace Connected

variable {σ α : Type} {c : Client σ} {held : σ → String → Option Json} {key : SummaryKey}
  {s : σ} {v : WorkflowSummary} {old : Json}

/-- An inquiry asks what the service reacts to. -/
theorem perform_call (hc : Connected c held) (d : Demand) {i : Inquiry α}
    (hrefusal : i.refusal? = none) (hpair : i.pair? = none) (hmethod : i.method = d.method)
    (hbody : i.body? = d.body?) (s : σ) :
    ∃ answer left, ((i.call c).perform s).1 = i.conclude (.ok answer) ∧
      Reacts answer d (held s (c.urlFor i.segments).text) left ∧
      held ((i.call c).perform s).2 =
        Function.update (held s) (c.urlFor i.segments).text left := by
  have hsentMethod : (i.sent c).method = d.method := by
    rw [Inquiry.sent, Client.method_prepared, Inquiry.method_request, hmethod]
  have hsentBody : (i.sent c).body = d.body? := by
    rw [Inquiry.sent, Client.body_prepared, Inquiry.body_request, hbody]
  have hurl : (i.sent c).url = c.urlFor i.segments := by
    simp [Inquiry.sent, Inquiry.request, hpair]
  obtain ⟨answer, left, hanswer, hreacts, hleft⟩ := hc.serves d (i.sent c) s hsentMethod hsentBody
  rw [hurl] at hreacts hleft
  rw [Inquiry.perform_call_of_bare hc.toBare hc.legal hrefusal]
  exact ⟨answer, left, congrArg i.conclude hanswer, hreacts, hleft⟩

theorem perform_storing (hc : Connected c held) (d : Demand) (hkey : key.Admitted)
    (hbody : some (WorkflowSummary.codec.toJson v) = d.body?) (s : σ) :
    ∃ answer left, (((storing d.method key v).call c).perform s).1 =
        (storing d.method key v).conclude (.ok answer) ∧
      Reacts answer d (held s (summaryUrl c key)) left ∧
      held (((storing d.method key v).call c).perform s).2 =
        Function.update (held s) (summaryUrl c key) left :=
  hc.perform_call d (hkey.refusal?_eq_none rfl rfl) rfl rfl hbody s

theorem create_of_none (hc : Connected c held) (hkey : key.Admitted)
    (hheld : held s (summaryUrl c key) = none) :
    (((Remote.summaryStore c).create key v).perform s).1 = .ok () ∧
      held (((Remote.summaryStore c).create key v).perform s).2 =
        Function.update (held s) (summaryUrl c key) (some (WorkflowSummary.codec.toJson v)) := by
  obtain ⟨answer, left, hresult, hreacts, hleft⟩ := hc.perform_storing (.add _) hkey rfl s
  rw [hheld] at hreacts
  rw [create_eq_call]
  cases hreacts with
  | created hsuccess => exact ⟨hresult.trans (conclude_storing_of_success hsuccess), hleft⟩

theorem create_of_some (hc : Connected c held) (hkey : key.Admitted)
    (hheld : held s (summaryUrl c key) = some old) :
    (∃ what, (((Remote.summaryStore c).create key v).perform s).1 =
        .error (.failed (.conflict what))) ∧
      held (((Remote.summaryStore c).create key v).perform s).2 = held s := by
  obtain ⟨answer, left, hresult, hreacts, hleft⟩ := hc.perform_storing (.add _) hkey rfl s
  rw [hheld] at hreacts
  rw [create_eq_call]
  cases hreacts with
  | taken hstatus =>
    rw [← hheld, Function.update_eq_self] at hleft
    obtain ⟨what, hconflict⟩ := conclude_storing_of_conflict hstatus
    exact ⟨⟨what, hresult.trans hconflict⟩, hleft⟩

theorem update_of_none (hc : Connected c held) (hkey : key.Admitted)
    (hheld : held s (summaryUrl c key) = none) :
    (∃ what, (((Remote.summaryStore c).update key v).perform s).1 =
        .error (.failed (.notFound what))) ∧
      held (((Remote.summaryStore c).update key v).perform s).2 = held s := by
  obtain ⟨answer, left, hresult, hreacts, hleft⟩ := hc.perform_storing (.replace _) hkey rfl s
  rw [hheld] at hreacts
  rw [update_eq_call]
  cases hreacts with
  | missing hstatus =>
    rw [← hheld, Function.update_eq_self] at hleft
    obtain ⟨what, hmissing⟩ := conclude_storing_of_notFound hstatus
    exact ⟨⟨what, hresult.trans hmissing⟩, hleft⟩

theorem update_of_some (hc : Connected c held) (hkey : key.Admitted)
    (hheld : held s (summaryUrl c key) = some old) :
    (((Remote.summaryStore c).update key v).perform s).1 = .ok () ∧
      held (((Remote.summaryStore c).update key v).perform s).2 =
        Function.update (held s) (summaryUrl c key) (some (WorkflowSummary.codec.toJson v)) := by
  obtain ⟨answer, left, hresult, hreacts, hleft⟩ := hc.perform_storing (.replace _) hkey rfl s
  rw [hheld] at hreacts
  rw [update_eq_call]
  cases hreacts with
  | replaced hsuccess => exact ⟨hresult.trans (conclude_storing_of_success hsuccess), hleft⟩

/-- A read gives what is held, and leaves it. -/
theorem read_of_eq (hc : Connected c held) (hkey : key.Admitted) {o : Option WorkflowSummary}
    (hheld : held s (summaryUrl c key) = o.map WorkflowSummary.codec.toJson)
    (ho : ∀ v ∈ o, v.Storable) :
    (((Remote.summaryStore c).read key).perform s).1 = .ok o ∧
      held (((Remote.summaryStore c).read key).perform s).2 = held s := by
  obtain ⟨answer, left, hresult, hreacts, hleft⟩ := hc.perform_call .get
    (i := (Operation.summaryInquiry key).orNone) (hkey.refusal?_eq_none rfl rfl) rfl rfl rfl s
  change Reacts answer .get (held s (summaryUrl c key)) left at hreacts
  change _ = Function.update (held s) (summaryUrl c key) left at hleft
  rw [read_eq_call]
  cases o with
  | none =>
    rw [Option.map_none] at hheld
    rw [hheld] at hreacts
    cases hreacts with
    | absent hstatus =>
      rw [← hheld, Function.update_eq_self] at hleft
      exact ⟨hresult.trans (conclude_reading_of_notFound hstatus), hleft⟩
  | some v =>
    rw [Option.map_some] at hheld
    rw [hheld] at hreacts
    cases hreacts with
    | found hstatus hbody =>
      rw [← hheld, Function.update_eq_self] at hleft
      exact ⟨hresult.trans (conclude_reading_of_success hstatus (ho v rfl) hbody), hleft⟩

end Connected

end PlatformLink.Workflow
