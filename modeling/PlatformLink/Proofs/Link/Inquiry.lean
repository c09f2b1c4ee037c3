import PlatformLink.Proofs.Endpoint.Sending
import PlatformLink.Proofs.Link.Operation

/-!
# Inquiries

Each operation over a client checks what it is given, sends one request and reads the answer. An
inquiry says, as data, what one operation does at each of these points: which identifiers may not be
blank, which request is sent, and how the answer is read. The operations are written one by one;
that each of them does what its inquiry says, over every client, is `call_eq`. What holds of
inquiries then holds of the operations.

Operations that may send two requests, or that are given a token to cancel them, are no inquiries.
-/

namespace PlatformLink

open Endpoint (Call Checked Client Stop Transport checkStatus decodeBody)
open Web (Method Request Response Url)
open Workflow

/-- What is asked of a service in one request. -/
structure Inquiry (α : Type) where
  service : ServiceName
  /-- What may not be blank, in the order in which it is looked at, each with what it identifies. -/
  ids : List (String × String)
  /-- What may not be zero. -/
  limit? : Option UInt32 := none
  method : Method
  segments : List String
  /-- The pair of the query. -/
  pair? : Option (String × String) := none
  body? : Option Json := none
  decode : Response → Outcome α
  /-- What is given where nothing is found, if that is no error. -/
  absent? : Option α := none

namespace Inquiry

variable {σ α : Type}

/-- The first thing that is wrong with what was given. -/
def refusal? (i : Inquiry α) : Option ValidationFault :=
  match i.ids.find? fun id => Text.isBlank id.2 with
  | some id => some (.emptyId i.service.text id.1)
  | none => if i.limit? = some 0 then some (.limitZero i.service.text) else none

/-- The request before it is prepared. -/
def request (c : Client σ) (i : Inquiry α) : Request :=
  let r : Request := ⟨i.method, c.urlFor i.segments, [], i.body?⟩
  match i.pair? with
  | some (name, value) => r.query name value
  | none => r

/-- What is given in the end. That nothing is found is an answer for some, whoever says it: the
status of the response or the transport itself. -/
def settle (i : Inquiry α) : Except Stop α → Except Stop α
  | .error (.failed (.notFound what)) =>
    match i.absent? with
    | some a => .ok a
    | none => .error (.failed (.notFound what))
  | result => result

/-- A result in which nothing found is no error. -/
def foundOrNone : Except Stop α → Except Stop (Option α)
  | .ok x => .ok (some x)
  | .error (.failed (.notFound _)) => .ok none
  | .error stop => .error stop

/-- What comes of the answer of a transport: its failure, or else the error of the status, or else
what the body is read as. -/
def conclude (i : Inquiry α) (answer : Except Stop Response) : Except Stop α :=
  i.settle (answer >>= fun r => (checkStatus r >>= i.decode).mapError .failed)

/-- Asks over a client. -/
def call (c : Client σ) (i : Inquiry α) : Call σ α :=
  match i.refusal? with
  | some fault => throw (.failed (.validation fault))
  | none => fun s =>
    let sent := (c.send (i.request c)).perform s
    (i.settle (sent.1 >>= fun r => (i.decode r).mapError .failed), sent.2)

/-- The same, where nothing found is no error. -/
def orNone (i : Inquiry α) : Inquiry (Option α) where
  service := i.service
  ids := i.ids
  limit? := i.limit?
  method := i.method
  segments := i.segments
  pair? := i.pair?
  body? := i.body?
  decode r := some <$> i.decode r
  absent? := some none

theorem refusal?_isSome_iff (i : Inquiry α) : i.refusal?.isSome = true ↔
    (∃ id ∈ i.ids, Text.isBlank id.2 = true) ∨ i.limit? = some 0 := by
  unfold refusal?
  cases h : i.ids.find? fun id => Text.isBlank id.2 with
  | some id =>
    have hid := List.find?_some h
    simpa using Or.inl ⟨_, _, List.mem_of_find?_eq_some h, hid⟩
  | none =>
    have hids := List.find?_eq_none.mp h
    have hnone : ¬∃ id ∈ i.ids, Text.isBlank id.2 = true := by
      rintro ⟨id, hid, hblank⟩
      exact hids id hid hblank
    rw [or_iff_right hnone]
    split_ifs with hlimit
    · simp [hlimit]
    · simp [hlimit]

theorem settle_of_absent?_eq_none {i : Inquiry α} (h : i.absent? = none) (result : Except Stop α) :
    i.settle result = result := by
  unfold settle
  split
  next => rw [h]
  next => rfl

/-- A response comes to what its status says, and only after that is it read. -/
theorem conclude_of_checked (i : Inquiry α) {answer : Response} {result : Outcome Response}
    (h : Checked answer result) :
    i.conclude (.ok answer) = i.settle ((result >>= i.decode).mapError .failed) := by
  rw [conclude, ok_bind, h.checkStatus_eq]

end Inquiry

/-! ## What each operation asks -/

namespace Operation

variable {σ α : Type}

/-- Nothing is read from the body. -/
def done (_ : Response) : Outcome Unit := .ok ()

def keyIds (key : SummaryKey) : List (String × String) :=
  [("form id", key.formId), ("instance id", key.instanceId)]

def summaryInquiry (key : SummaryKey) : Inquiry WorkflowSummary where
  service := .summary
  ids := keyIds key
  method := .get
  segments := ["Summaries", key.formId, toString key.majorVersion.toNat, key.instanceId]
  decode := decodeBody WorkflowSummary.codec

/-- The inquiry that an operation is, if it is one. -/
def inquiry? : Operation α → Option (Inquiry α)
  | readActivity id => some {
      service := .activity, ids := [("activity id", id)]
      method := .get, segments := ["Activities", id]
      decode := decodeBody Activity.codec }
  | succeedActivity id result => some {
      service := .activity, ids := [("activity id", id)]
      method := .post, segments := ["Activities", id, "Success"], body? := some result
      decode := done }
  | failActivity id failure => some {
      service := .activity, ids := [("activity id", id)]
      method := .post, segments := ["Activities", id, "Failed"]
      body? := some (ActivityFailure.codec.toJson failure)
      decode := done }
  | readWorkflow id => some {
      service := .workflow, ids := [("instance id", id)]
      method := .get, segments := ["Workflows", id]
      decode := decodeBody Workflow.codec }
  | createInstance i => some {
      service := .instances, ids := [("version id", i.versionId)]
      method := .post, segments := ["Instances"], body? := some (InstanceCreate.codec.toJson i)
      decode := decodeBody Instance.codec }
  | readInstance id => some {
      service := .instances, ids := [("instance id", id)]
      method := .get, segments := ["Instances", id]
      decode := decodeBody Instance.codec }
  | updateInstance i => some {
      service := .instances, ids := [("instance id", i.id)]
      method := .put, segments := ["Instances", i.id], body? := some (Instance.codec.toJson i)
      decode := decodeBody Instance.codec }
  | createForm f => some {
      service := .form, ids := [("capability name", f.capabilityName)]
      method := .post, segments := ["Forms"], body? := some (FormCreate.codec.toJson f)
      decode := decodeBody .text }
  | readForm id => some {
      service := .form, ids := [("form id", id)]
      method := .get, segments := ["Forms", id]
      decode := decodeBody Form.codec }
  | updateForm f => some {
      service := .form, ids := [("form id", f.id)]
      method := .put, segments := ["Forms", f.id], body? := some (Form.codec.toJson f)
      decode := decodeBody Form.codec }
  | createVersion formId v => some {
      service := .version, ids := [("form id", formId)]
      method := .post, segments := ["Forms", formId, "Versions"]
      body? := some (VersionCreate.codec.toJson v)
      decode := decodeBody Version.codec }
  | readVersion formId majorVersion => some {
      service := .version, ids := [("form id", formId)]
      method := .get, segments := ["Forms", formId, "Versions", toString majorVersion.toNat]
      decode := decodeBody Version.codec }
  | createLog l => some {
      service := .log, ids := [("parent id", l.parentId)]
      method := .post, segments := ["Logs"], body? := some (LogCreate.codec.toJson l)
      decode := decodeBody .text }
  | readLogs id => some {
      service := .log, ids := [("parent id", id)]
      method := .get, segments := ["Logs"], pair? := some ("parentId", id)
      decode := decodeBody (.list LogEntry.codec) }
  | raiseSemaphore s => some {
      service := .semaphore, ids := [("resource identifier", s.resourceIdentifier)]
      limit? := some s.limit
      method := .post, segments := ["Semaphores"], body? := some (SemaphoreCreate.codec.toJson s)
      decode := decodeBody SemaphoreHolder.codec }
  | extendSemaphore id seconds => some {
      service := .semaphore, ids := [("holder id", id)]
      method := .post, segments := ["Semaphores", id, "Extend"]
      body? := some (.obj [("expirationSeconds", .ofUInt64 seconds)])
      decode := decodeBody SemaphoreHolder.codec }
  | lowerSemaphore id => some {
      service := .semaphore, ids := [("holder id", id)]
      method := .post, segments := ["Semaphores", id, "Lower"]
      decode := done }
  | readSummary key => some (summaryInquiry key)
  | createStored key s => some {
      service := .summary, ids := keyIds key
      method := .post
      segments := ["Summaries", key.formId, toString key.majorVersion.toNat, key.instanceId]
      body? := some (WorkflowSummary.codec.toJson s)
      decode := done }
  | updateStored key s => some {
      service := .summary, ids := keyIds key
      method := .put
      segments := ["Summaries", key.formId, toString key.majorVersion.toNat, key.instanceId]
      body? := some (WorkflowSummary.codec.toJson s)
      decode := done }
  | readStored key => some (summaryInquiry key).orNone
  | createOrUpdateStored .. | publish .. | publishEvent .. => none

end Operation

namespace Inquiry

variable {σ α β : Type} {c : Client σ}

/-- What is checked before anything is sent. -/
def check (i : Inquiry α) : Outcome Unit :=
  match i.refusal? with
  | some fault => .error (.validation fault)
  | none => .ok ()

/-- What checks as an inquiry does and then sends and reads. -/
theorem eq_call_of_check {i : Inquiry α} {x : Call σ α} {check : Outcome Unit}
    (hcheck : check = i.check) (habsent : i.absent? = none)
    (hx : x = Call.ofOutcome check >>= fun _ =>
      c.send (i.request c) >>= fun r => Call.ofOutcome (i.decode r)) :
    x = i.call c := by
  rw [hx, hcheck, Inquiry.check, call]
  cases i.refusal? with
  | some fault => rfl
  | none =>
    funext s
    refine (Call.perform_bind_ofOutcome (c.send (i.request c)) i.decode s).trans ?_
    dsimp only
    rw [settle_of_absent?_eq_none habsent]

theorem perform_call_of_unrefused {i : Inquiry α} (h : i.refusal? = none) (s : σ) :
    (i.call c).perform s =
      (i.settle (((c.send (i.request c)).perform s).1 >>= fun r =>
        (i.decode r).mapError .failed), ((c.send (i.request c)).perform s).2) := by
  rw [call, h]
  rfl

theorem settle_orNone (i : Inquiry α) (answer : Except Stop Response) :
    i.orNone.settle (answer >>= fun r => (i.orNone.decode r).mapError .failed) =
      foundOrNone (answer >>= fun r => (i.decode r).mapError .failed) := by
  have hsettle (result : Except Stop α) :
      i.orNone.settle (some <$> result) = foundOrNone result := by
    rcases result with (e | _) | x
    · cases e <;> rfl
    · rfl
    · rfl
  rw [← hsettle]
  congr 1
  rcases answer with stop | r
  · rfl
  · change ((some <$> i.decode r).mapError Stop.failed) = some <$> (i.decode r).mapError Stop.failed
    cases i.decode r <;> rfl

/-- Nothing found is told from every other error. -/
theorem perform_call_orNone (i : Inquiry α) (habsent : i.absent? = none) (s : σ) :
    (i.orNone.call c).perform s =
      (foundOrNone ((i.call c).perform s).1, ((i.call c).perform s).2) := by
  cases hrefusal : i.refusal? with
  | some fault =>
    have horNone : i.orNone.refusal? = some fault := hrefusal
    rw [call, call, horNone, hrefusal]
    rfl
  | none =>
    have horNone : i.orNone.refusal? = none := hrefusal
    rw [perform_call_of_unrefused hrefusal, perform_call_of_unrefused horNone, settle_orNone,
      settle_of_absent?_eq_none habsent]
    rfl

theorem checkId_eq_check {i : Inquiry α} {subject id : String} (hids : i.ids = [(subject, id)])
    (hlimit : i.limit? = none) : checkId i.service subject id = i.check := by
  by_cases hblank : Text.isBlank id = true
  · simp [checkId, check, refusal?, hids, hblank]
  · simp [checkId, check, refusal?, hids, hblank, hlimit]

theorem checkKey_eq_check {i : Inquiry α} {key : SummaryKey} (hservice : i.service = .summary)
    (hids : i.ids = [("form id", key.formId), ("instance id", key.instanceId)])
    (hlimit : i.limit? = none) : Remote.checkKey key = i.check := by
  by_cases hform : Text.isBlank key.formId = true
  · simp [Remote.checkKey, checkId, check, refusal?, hids, hservice, hform, error_bind]
  · by_cases hinstance : Text.isBlank key.instanceId = true <;>
      simp [Remote.checkKey, checkId, check, refusal?, hids, hservice, hlimit, hform, hinstance,
        ok_bind]

theorem checkLimit_eq_check {i : Inquiry α} {subject id : String} {limit : UInt32}
    (hids : i.ids = [(subject, id)]) (hlimit : i.limit? = some limit) :
    (checkId i.service subject id >>= fun _ =>
      if limit = 0 then .error (.validation (.limitZero i.service.text)) else .ok ()) =
        i.check := by
  by_cases hblank : Text.isBlank id = true
  · simp [checkId, check, refusal?, hids, hblank, error_bind]
  · by_cases hzero : limit = 0 <;>
      simp [checkId, check, refusal?, hids, hblank, hlimit, hzero, ok_bind]

end Inquiry

namespace Operation

variable {σ α : Type} {c : Client σ}

/-- Reading from the store is reading a summary, only that nothing found is no error. -/
theorem perform_readStored (key : SummaryKey) (s : σ) :
    ((readStored key).call c).perform s =
      (Inquiry.foundOrNone (((readSummary key).call c).perform s).1,
        (((readSummary key).call c).perform s).2) := by
  change (tryCatch (some <$> (readSummary key).call c) _).perform s = _
  rw [Call.perform_tryCatch, map_eq_pure_bind, Call.perform_bind]
  rcases ((readSummary key).call c).perform s with ⟨(e | _) | x, s'⟩
  · cases e <;> rfl
  · rfl
  · rfl

/-- Every operation that is an inquiry does what the inquiry says. -/
theorem call_eq {op : Operation α} {i : Inquiry α} (h : op.inquiry? = some i) :
    op.call c = i.call c := by
  cases op <;> cases h
  case readActivity | succeedActivity | failActivity | readWorkflow | createInstance |
      readInstance | updateInstance | createForm | readForm | updateForm | createVersion |
      readVersion | createLog | readLogs | extendSemaphore | lowerSemaphore =>
    exact Inquiry.eq_call_of_check (Inquiry.checkId_eq_check rfl rfl) rfl rfl
  case readSummary | createStored | updateStored =>
    exact Inquiry.eq_call_of_check (Inquiry.checkKey_eq_check rfl rfl rfl) rfl rfl
  case raiseSemaphore s =>
    refine Inquiry.eq_call_of_check (Inquiry.checkLimit_eq_check rfl rfl) rfl ?_
    change Remote.checked .semaphore "resource identifier" s.resourceIdentifier _ = _
    rw [Remote.checked]
    cases checkId .semaphore "resource identifier" s.resourceIdentifier with
    | error e => rfl
    | ok _ => by_cases hzero : s.limit = 0 <;> simp only [hzero, if_true, if_false] <;> rfl
  case readStored key =>
    have hread : (readSummary key).call c = (summaryInquiry key).call c :=
      Inquiry.eq_call_of_check (Inquiry.checkKey_eq_check rfl rfl rfl) rfl rfl
    funext s
    refine (perform_readStored key s).trans ?_
    rw [hread]
    exact (Inquiry.perform_call_orNone (summaryInquiry key) rfl s).symm

end Operation

/-! ## One request or none -/

namespace Inquiry

variable {σ α : Type} {c : Client σ}

/-- The request that the transport gets. -/
def sent (c : Client σ) (i : Inquiry α) : Request :=
  c.prepared (i.request c)

theorem method_request (c : Client σ) (i : Inquiry α) : (i.request c).method = i.method := by
  unfold request
  split <;> rfl

theorem body_request (c : Client σ) (i : Inquiry α) : (i.request c).body = i.body? := by
  unfold request
  split <;> rfl

theorem url_request (hroot : Endpoint.AnyRoot c.root) (i : Inquiry α) :
    (i.request c).url = { c.urlFor i.segments with
      query := i.pair?.map fun pair => String.ofList (Web.formPair pair.1 pair.2) } := by
  have hquery : (c.urlFor i.segments).query = none :=
    (c.query_urlFor i.segments).trans hroot.query
  unfold request
  split
  next name value hpair =>
    simp [hpair, Request.query, Url.appendQuery, Web.appendPair, hquery]
  next hpair => simp [hpair, ← hquery]

/-- What an unrefused inquiry comes to over a client without middleware. -/
theorem perform_call_of_bare (hbare : c.Bare) (hlegal : c.LegalCredentials) {i : Inquiry α}
    (h : i.refusal? = none) (s : σ) :
    (i.call c).perform s =
      (i.conclude ((c.transport (i.sent c)).perform s).1,
        ((c.transport (i.sent c)).perform s).2) := by
  rw [perform_call_of_unrefused h, hbare.perform_send hlegal, conclude, sent]
  congr 2
  rcases ((c.transport (c.prepared (i.request c))).perform s).1 with stop | r
  · rfl
  · change ((checkStatus r).mapError Stop.failed >>= fun r => (i.decode r).mapError Stop.failed) =
      (checkStatus r >>= i.decode).mapError Stop.failed
    cases checkStatus r <;> rfl

end Inquiry

/-- How an operation is carried out that is an inquiry. -/
structure Operation.AsksOnce {σ α : Type} (c : Client σ) (op : Operation α) (i : Inquiry α) :
    Prop where
  refused_iff : i.refusal?.isSome = true ↔
    (∃ id ∈ i.ids, Text.isBlank id.2 = true) ∨ i.limit? = some 0
  /-- What is refused leaves the transport as it is, and nothing is sent. -/
  refused : ∀ fault, i.refusal? = some fault → ∀ s seen,
    (op.call c).perform s = (.error (.failed (.validation fault)), s) ∧
      (op.call c.recorded).perform (s, seen) = (.error (.failed (.validation fault)), s, seen)
  /-- What is not refused is sent once, and its answer is what counts. -/
  asked : i.refusal? = none → ∀ s seen,
    (op.call c).perform s =
        (i.conclude ((c.transport (i.sent c)).perform s).1,
          ((c.transport (i.sent c)).perform s).2) ∧
      (op.call c.recorded).perform (s, seen) =
        (i.conclude ((c.transport (i.sent c)).perform s).1,
          ((c.transport (i.sent c)).perform s).2, seen ++ [i.sent c])
  method : (i.sent c).method = i.method
  /-- A query there is only with a pair, and the pair is all of it. -/
  url : (i.sent c).url = { c.urlFor i.segments with
    query := i.pair?.map fun pair => String.ofList (Web.formPair pair.1 pair.2) }
  body : (i.sent c).body = i.body?

/-- Whatever is given to an operation of a workflow service or of the summary store over a client
as it is made: the operation refuses it and sends nothing, or it sends its one request and gives
what its answer comes to. -/
theorem Operation.asks_once {σ α : Type} {baseUrl : String} {tenant : Option Tenant}
    {credentials : Option Credentials} {t : Transport σ} {c : Client σ}
    (hc : Client.new baseUrl tenant credentials t = .ok c) (hlegal : c.LegalCredentials)
    {op : Operation α} {i : Inquiry α} (hi : op.inquiry? = some i) : AsksOnce c op i := by
  have hfresh := Client.fresh_of_new hc
  constructor
  case refused_iff => exact i.refusal?_isSome_iff
  case refused =>
    intro fault hfault s seen
    rw [call_eq hi, call_eq hi, Inquiry.call, Inquiry.call, hfault]
    exact ⟨rfl, rfl⟩
  case asked =>
    intro hnone s seen
    rw [call_eq hi, call_eq hi]
    exact ⟨Inquiry.perform_call_of_bare hfresh.toBare hlegal hnone s,
      Inquiry.perform_call_of_bare hfresh.toBare.recorded hlegal.recorded hnone (s, seen)⟩
  case method => rw [Inquiry.sent, Client.method_prepared, Inquiry.method_request]
  case url => rw [Inquiry.sent, Client.url_prepared, Inquiry.url_request hfresh.root]
  case body => rw [Inquiry.sent, Client.body_prepared, Inquiry.body_request]

theorem Operation.asks_once_readLogs :
    ∃ i : Inquiry (List LogEntry), (readLogs "instance 1").inquiry? = some i ∧
      AsksOnce Client.scripted (readLogs "instance 1") i := by
  have hnew : Client.new "https://[::1]" none none Endpoint.Script.transport =
      .ok Client.scripted := by rfl
  have hlegal : Client.scripted.LegalCredentials := nofun
  exact ⟨_, rfl, asks_once hnew hlegal rfl⟩

end PlatformLink
