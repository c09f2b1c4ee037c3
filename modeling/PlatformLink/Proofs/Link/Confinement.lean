import PlatformLink.Proofs.Endpoint.Recording
import PlatformLink.Proofs.Endpoint.Root
import PlatformLink.Proofs.Link.Operation

/-!
# Confinement to the endpoint root

Whatever an operation over a client sends lies under the root of the client. A path is made from the
root by adding a name that the operation fixes and then texts of the caller. Those texts may take
away what was added behind the root, but the name is added first, and adding reaches no further back
than the last segment: in the place of the name there is always some segment.
-/

namespace PlatformLink

open Endpoint
open Web

/-- A URL that lies under a root. -/
structure Confined (root u : Url) : Prop where
  scheme : u.scheme = root.scheme
  userinfo : u.userinfo = root.userinfo
  host : u.host = root.host
  port : u.port = root.port
  fragment : u.fragment = none
  path : ∃ rest, u.pathText = withoutSlash root.pathText ++ "/" ++ rest

section

variable {σ α : Type} {c : Client σ} {tenant : Option Tenant}

/-- Behind the root a path is what the name and the texts make of it. -/
theorem exists_urlFor_eq (hroot : WebRoot tenant c.root) :
    ∃ ss, withoutSlash c.root.pathText = segmentsText ss ∧
      ∀ {name : String}, Plain name → ∀ texts, c.urlFor (name :: texts) = { c.root with
        path := .segments (ss ++ texts.foldl (pushBehind .specialSegment) [name]) } := by
  obtain ⟨hscheme, hguarded, -, ss, hpath⟩ := hroot
  have htext : c.root.pathText = segmentsText (rootSegments ss tenant) := by
    simp [Url.pathText, hguarded, hpath]
  refine ⟨front (rootSegments ss tenant), ?_, fun hname texts => ?_⟩
  · rw [htext, withoutSlash_rootSegments]
  · rw [Client.urlFor, extendPath?_of_web hscheme hpath, Option.getD_some,
      pushSegments_front (front_rootSegments_ne_nil ss tenant) hname]

theorem confined_urlFor (hroot : WebRoot tenant c.root) {name : String} (hname : Plain name)
    (texts : List String) : Confined c.root (c.urlFor (name :: texts)) := by
  obtain ⟨ss, hss, hurl⟩ := exists_urlFor_eq hroot
  obtain ⟨rest, hrest⟩ := segmentsText_of_ne_nil (foldl_pushBehind_ne_nil .specialSegment
    (List.cons_ne_nil name []) texts)
  rw [hurl hname texts]
  refine ⟨rfl, rfl, rfl, rfl, hroot.fragment, rest, ?_⟩
  rw [hss, String.append_assoc, ← hrest, ← segmentsText_append]
  simp [Url.pathText, hroot.unguarded]

theorem Confined.appendQuery {root u : Url} (h : Confined root u) (name value : String) :
    Confined root (u.appendQuery name value) :=
  ⟨h.scheme, h.userinfo, h.host, h.port, h.fragment, h.path⟩

/-! ## What each kind of request records -/

/-- A call of which every request is confined to the root of the client. -/
abbrev Confines (c : Client σ) (x : Call (σ × List Request) α) (y : Call σ α) : Prop :=
  Records (fun r => Confined c.root r.url) x y

theorem confines_checked {x : Call (σ × List Request) α} {y : Call σ α} (h : Confines c x y)
    (service : Workflow.ServiceName) (subject id : String) :
    Confines c (Workflow.Remote.checked service subject id x)
      (Workflow.Remote.checked service subject id y) :=
  Records.bind (Records.ofOutcome _) fun _ => h

variable (hroot : WebRoot tenant c.root) (hms : ∀ m ∈ c.requestMiddleware, KeepsUrl m)
include hroot hms

theorem confines_getJson {name : String} (hname : Plain name) (texts : List String)
    (codec : Json.Codec α) :
    Confines c (c.recorded.getJson codec (name :: texts)) (c.getJson codec (name :: texts)) :=
  c.records_sendJson hms (confined_urlFor hroot hname texts) codec

theorem confines_postJson {name : String} (hname : Plain name) (texts : List String)
    (codec : Json.Codec α) (body : Json) :
    Confines c (c.recorded.postJson codec (name :: texts) body)
      (c.postJson codec (name :: texts) body) :=
  c.records_sendJson hms (confined_urlFor hroot hname texts) codec

theorem confines_putJson {name : String} (hname : Plain name) (texts : List String)
    (codec : Json.Codec α) (body : Json) :
    Confines c (c.recorded.putJson codec (name :: texts) body)
      (c.putJson codec (name :: texts) body) :=
  c.records_sendJson hms (confined_urlFor hroot hname texts) codec

theorem confines_post {name : String} (hname : Plain name) (texts : List String) (body : Json) :
    Confines c (c.recorded.post (name :: texts) body) (c.post (name :: texts) body) :=
  c.records_sendEmpty hms (confined_urlFor hroot hname texts)

theorem confines_put {name : String} (hname : Plain name) (texts : List String) (body : Json) :
    Confines c (c.recorded.put (name :: texts) body) (c.put (name :: texts) body) :=
  c.records_sendEmpty hms (confined_urlFor hroot hname texts)

theorem confines_readLogs (parentId : String) :
    Confines c ((Workflow.Remote.log c.recorded).readByParent parentId)
      ((Workflow.Remote.log c).readByParent parentId) := by
  refine confines_checked ?_ .log "parent id" parentId
  have hurl : Confined c.root (c.urlFor ["Logs"]) := confined_urlFor hroot (by decide) []
  exact c.records_sendJson hms (hurl.appendQuery "parentId" parentId)
    (.list Workflow.LogEntry.codec)

theorem confines_raiseSemaphore (s : Workflow.SemaphoreCreate) :
    Confines c ((Workflow.Remote.semaphore c.recorded).raise s)
      ((Workflow.Remote.semaphore c).raise s) := by
  refine confines_checked ?_ .semaphore "resource identifier" s.resourceIdentifier
  have hpost := confines_postJson hroot hms (by decide : Plain "Semaphores") []
    Workflow.SemaphoreHolder.codec (Workflow.SemaphoreCreate.codec.toJson s)
  by_cases hlimit : s.limit = 0
  · simp only [hlimit, if_true]
    exact Records.bind (Records.ofOutcome _) fun _ => hpost
  · simp only [hlimit, if_false]
    exact hpost

theorem confines_readSummary (key : Workflow.SummaryKey) :
    Confines c ((Workflow.Remote.summary c.recorded).read key)
      ((Workflow.Remote.summary c).read key) :=
  Records.bind (Records.ofOutcome _) fun _ => confines_getJson hroot hms (by decide) _ _

theorem confines_createStored (key : Workflow.SummaryKey) (s : Workflow.WorkflowSummary) :
    Confines c ((Workflow.Remote.summaryStore c.recorded).create key s)
      ((Workflow.Remote.summaryStore c).create key s) :=
  Records.bind (Records.ofOutcome _) fun _ => confines_post hroot hms (by decide) _ _

theorem confines_updateStored (key : Workflow.SummaryKey) (s : Workflow.WorkflowSummary) :
    Confines c ((Workflow.Remote.summaryStore c.recorded).update key s)
      ((Workflow.Remote.summaryStore c).update key s) :=
  Records.bind (Records.ofOutcome _) fun _ => confines_put hroot hms (by decide) _ _

theorem confines_readStored (key : Workflow.SummaryKey) :
    Confines c ((Workflow.Remote.summaryStore c.recorded).read key)
      ((Workflow.Remote.summaryStore c).read key) := by
  refine Records.tryCatch (Records.map (confines_readSummary hroot hms key) some) fun stop => ?_
  split
  · exact Records.pure none
  · exact Records.throw _

theorem confines_createOrUpdateStored (key : Workflow.SummaryKey)
    (s : Workflow.WorkflowSummary) :
    Confines c ((Workflow.Remote.summaryStore c.recorded).createOrUpdate key s)
      ((Workflow.Remote.summaryStore c).createOrUpdate key s) := by
  refine Records.tryCatch (confines_createStored hroot hms key s) fun stop => ?_
  split
  · exact confines_updateStored hroot hms key s
  · exact Records.throw _

theorem confines_publish (token : Event.Cancellation) (event : Json) :
    Confines c (Event.publishRemote c.recorded token event)
      (Event.publishRemote c token event) := by
  have hpost : Confines c (c.recorded.post Event.resource event) (c.post Event.resource event) :=
    confines_post hroot hms (by decide) [] event
  cases token with
  | never => exact hpost
  | before => exact Records.throw _
  | during =>
    refine Records.tryCatch hpost fun stop => ?_
    split <;> exact Records.throw _

/-- Every operation records what lies under the root, and nothing else. -/
theorem confines_call (op : Operation α) : Confines c (op.call c.recorded) (op.call c) := by
  cases op with
  | readActivity id =>
    exact confines_checked (confines_getJson hroot hms (by decide) _ _) _ _ _
  | succeedActivity id result =>
    exact confines_checked (confines_post hroot hms (by decide) _ _) _ _ _
  | failActivity id failure =>
    exact confines_checked (confines_post hroot hms (by decide) _ _) _ _ _
  | readWorkflow id =>
    exact confines_checked (confines_getJson hroot hms (by decide) _ _) _ _ _
  | createInstance i =>
    exact confines_checked (confines_postJson hroot hms (by decide) _ _ _) _ _ _
  | readInstance id =>
    exact confines_checked (confines_getJson hroot hms (by decide) _ _) _ _ _
  | updateInstance i =>
    exact confines_checked (confines_putJson hroot hms (by decide) _ _ _) _ _ _
  | createForm f =>
    exact confines_checked (confines_postJson hroot hms (by decide) _ _ _) _ _ _
  | readForm id =>
    exact confines_checked (confines_getJson hroot hms (by decide) _ _) _ _ _
  | updateForm f =>
    exact confines_checked (confines_putJson hroot hms (by decide) _ _ _) _ _ _
  | createVersion formId v =>
    exact confines_checked (confines_postJson hroot hms (by decide) _ _ _) _ _ _
  | readVersion formId majorVersion =>
    exact confines_checked (confines_getJson hroot hms (by decide) _ _) _ _ _
  | createLog l =>
    exact confines_checked (confines_postJson hroot hms (by decide) _ _ _) _ _ _
  | readLogs id => exact confines_readLogs hroot hms id
  | raiseSemaphore s => exact confines_raiseSemaphore hroot hms s
  | extendSemaphore id seconds =>
    exact confines_checked (confines_postJson hroot hms (by decide) _ _ _) _ _ _
  | lowerSemaphore id =>
    have hurl : Confined c.root (c.urlFor ["Semaphores", id, "Lower"]) :=
      confined_urlFor hroot (by decide) [id, "Lower"]
    exact confines_checked (c.records_sendEmpty hms hurl) _ _ _
  | readSummary key => exact confines_readSummary hroot hms key
  | createStored key s => exact confines_createStored hroot hms key s
  | updateStored key s => exact confines_updateStored hroot hms key s
  | readStored key => exact confines_readStored hroot hms key
  | createOrUpdateStored key s => exact confines_createOrUpdateStored hroot hms key s
  | publish token event => exact confines_publish hroot hms token event
  | publishEvent token e =>
    exact Records.bind (Records.ofOutcome _) fun event => confines_publish hroot hms token event

end

/-- Every request that an operation sends is confined to the root of its client: the record of what
reaches the transport holds nothing else, and keeping it changes neither the result nor the state
that the transport is left in. -/
theorem sent_confined {σ α : Type} {c : Client σ} {baseUrl : String} {tenant : Option Tenant}
    (hroot : Endpoint.root baseUrl tenant = .ok c.root) (hweb : IsWebScheme c.root.scheme)
    (hms : ∀ m ∈ c.requestMiddleware, KeepsUrl m) (op : Operation α) (s : σ) :
    ∃ sent, (op.call c.recorded).perform (s, []) =
        (((op.call c).perform s).1, ((op.call c).perform s).2, sent) ∧
      ∀ r ∈ sent, Confined c.root r.url := by
  obtain ⟨sent, hperform, hsent⟩ :=
    confines_call (webRoot_of_root hroot hweb) hms op s []
  exact ⟨sent, hperform, hsent⟩

/-- A client of a tenant over a script, with a header that it adds to every request. -/
def scriptedClient : Client Script where
  root := ⟨"https", "", some "[::1]", none, false, .segments ["api", "v1", "acme", "prod"], none,
    none⟩
  tenant := some ⟨"acme", "prod"⟩
  credentials := none
  transport := Script.transport
  requestMiddleware := [FixedHeader.middleware ⟨.correlationId, ⟨"1"⟩⟩]
  responseMiddleware := []

/-- An id that becomes two dots once its tab is dropped takes away the name before it, and no
more. -/
example : (scriptedClient.urlFor ["Activities", "\t..", "Success"]).text =
    "https://[::1]/api/v1/acme/prod//Success" := by
  decide +kernel

theorem sent_confined_dropped_tab :
    ∃ sent, ((Operation.readActivity "\t..").call scriptedClient.recorded).perform
        (Script.new [], []) =
      ((((Operation.readActivity "\t..").call scriptedClient).perform (Script.new [])).1,
        (((Operation.readActivity "\t..").call scriptedClient).perform (Script.new [])).2, sent) ∧
      ∀ r ∈ sent, Confined scriptedClient.root r.url := by
  have hroot : Endpoint.root "https://[::1]" (some ⟨"acme", "prod"⟩) = .ok scriptedClient.root := by
    rfl
  have hms : ∀ m ∈ scriptedClient.requestMiddleware, KeepsUrl m := by
    intro m hm
    rw [List.mem_singleton.mp hm]
    exact keepsUrl_middleware ⟨.correlationId, ⟨"1"⟩⟩
  exact sent_confined hroot (by decide) hms (.readActivity "\t..") (Script.new [])

end PlatformLink
