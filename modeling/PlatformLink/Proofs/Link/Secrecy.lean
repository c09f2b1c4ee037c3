import PlatformLink.Proofs.Endpoint.Secrecy
import PlatformLink.Proofs.Link.Inquiry

/-!
# What a token changes

Whatever is done over a client: requests that are built step by step, and all operations of the
services, each of which may be chosen by what came of those before. Two clients that are made alike
but for their tokens give the same results throughout.
-/

namespace PlatformLink

open Endpoint (Alike Call Client FixedHeader ResponseMiddleware Script Stop TokensApart)
open Web (Method Request Response)

/-! ## What is done over a client -/

/-- A step of building a request. -/
inductive Edit where
  | query (name value : String)
  | header (name value : String)
  | body (v : Json)

/-- A header that cannot be written ends the building. -/
def Edit.apply (r : Request) : Edit → Outcome Request
  | query name value => .ok (r.query name value)
  | header name value => (r.header name value).mapError fun fault => .validation (.header fault)
  | body v => .ok (r.withBody v)

/-- A request as it is built over a client. -/
structure Draft where
  method : Method
  segments : List String
  edits : List Edit

def Draft.build {σ : Type} (c : Client σ) (d : Draft) : Outcome Request :=
  d.edits.foldlM Edit.apply (c.request d.method d.segments)

/-- A call over a client: a request that is built and sent, or an operation of a service. -/
inductive RestCall : Type → Type 1 where
  | send (d : Draft) : RestCall Response
  | sendJson {α : Type} (codec : Json.Codec α) (d : Draft) : RestCall α
  | sendEmpty (d : Draft) : RestCall Unit
  | operation {α : Type} (op : Operation α) : RestCall α

def RestCall.on {σ : Type} (c : Client σ) : {α : Type} → RestCall α → Call σ α
  | _, send d => Call.ofOutcome (d.build c) >>= c.send
  | _, sendJson codec d => Call.ofOutcome (d.build c) >>= c.sendJson codec
  | _, sendEmpty d => Call.ofOutcome (d.build c) >>= c.sendEmpty
  | _, operation op => op.call c

/-- Calls that are made one after the other, each chosen by what came of those before. -/
inductive Session : Type 1 where
  | done : Session
  | call {α : Type} (x : RestCall α) (next : Except Stop α → Session) : Session

/-- The results of a session, and what it leaves. -/
def Session.run {σ : Type} (c : Client σ) : Session → σ → List (Σ α : Type, Except Stop α) × σ
  | done, s => ([], s)
  | call x next, s =>
    let r := (x.on c).perform s
    let rest := (next r.1).run c r.2
    (⟨_, r.1⟩ :: rest.1, rest.2)

/-- All from which a client is made but its credentials. -/
structure ClientSetup where
  baseUrl : String
  tenant : Option Tenant
  headers : List FixedHeader
  responses : List ResponseMiddleware

/-- The client over a script. -/
def ClientSetup.client (s : ClientSetup) (credentials : Credentials) : Outcome (Client Script) := do
  let c ← Client.new s.baseUrl s.tenant (some credentials) Script.transport
  let c := (s.headers.map FixedHeader.middleware).foldl Client.addRequestMiddleware c
  return s.responses.foldl Client.addResponseMiddleware c

/-! ## Each call goes the same way -/

namespace Endpoint.Client.Twins

variable {α : Type} {c : Client Script} {a b : Credentials}

theorem alike_inquiry (h : c.Twins a b) (i : Inquiry α) :
    Alike a b (i.call (c.withCredentials a)) (i.call (c.withCredentials b)) := by
  cases hrefusal : i.refusal? with
  | some fault =>
    rw [Inquiry.call, Inquiry.call, hrefusal]
    exact Alike.throw _
  | none =>
    intro s t hmatched
    obtain ⟨hresult, hleft⟩ := h.alike_send (i.request c) s t hmatched
    rw [Inquiry.perform_call_of_unrefused hrefusal, Inquiry.perform_call_of_unrefused hrefusal]
    exact ⟨congrArg (fun answer => i.settle (answer >>= fun r => (i.decode r).mapError .failed))
      hresult, hleft⟩

theorem alike_of_inquiry? (h : c.Twins a b) {op : Operation α} {i : Inquiry α}
    (hi : op.inquiry? = some i) :
    Alike a b (op.call (c.withCredentials a)) (op.call (c.withCredentials b)) := by
  rw [Operation.call_eq hi, Operation.call_eq hi]
  exact h.alike_inquiry i

theorem alike_createOrUpdateStored (h : c.Twins a b) (key : Workflow.SummaryKey)
    (s : Workflow.WorkflowSummary) :
    Alike a b ((Operation.createOrUpdateStored key s).call (c.withCredentials a))
      ((Operation.createOrUpdateStored key s).call (c.withCredentials b)) := by
  have hcreate := h.alike_of_inquiry?
    (show (Operation.createStored key s).inquiry? = some _ from rfl)
  have hupdate := h.alike_of_inquiry?
    (show (Operation.updateStored key s).inquiry? = some _ from rfl)
  refine Alike.tryCatch hcreate fun stop => ?_
  split
  · exact hupdate
  · exact Alike.throw _

theorem alike_publishRemote (h : c.Twins a b) (token : Event.Cancellation) (event : Json) :
    Alike a b (Event.publishRemote (c.withCredentials a) token event)
      (Event.publishRemote (c.withCredentials b) token event) := by
  have hpost : Alike a b ((c.withCredentials a).post Event.resource event)
      ((c.withCredentials b).post Event.resource event) :=
    h.alike_sendEmpty ((c.request .post Event.resource).withBody event)
  cases token with
  | before => exact Alike.throw _
  | never => exact hpost
  | during =>
    refine Alike.tryCatch hpost fun stop => ?_
    split <;> exact Alike.throw _

theorem alike_operation (h : c.Twins a b) (op : Operation α) :
    Alike a b (op.call (c.withCredentials a)) (op.call (c.withCredentials b)) := by
  cases hi : op.inquiry? with
  | some i => exact h.alike_of_inquiry? hi
  | none =>
    cases op
    case createOrUpdateStored key s => exact h.alike_createOrUpdateStored key s
    case publish token event => exact h.alike_publishRemote token event
    case publishEvent token e =>
      exact (Alike.ofOutcome _).bind fun event => h.alike_publishRemote token event
    all_goals cases hi

theorem alike_on (h : c.Twins a b) (x : RestCall α) :
    Alike a b (x.on (c.withCredentials a)) (x.on (c.withCredentials b)) := by
  cases x with
  | send d => exact (Alike.ofOutcome (d.build c)).bind h.alike_send
  | sendJson codec d => exact (Alike.ofOutcome (d.build c)).bind (h.alike_sendJson codec)
  | sendEmpty d => exact (Alike.ofOutcome (d.build c)).bind h.alike_sendEmpty
  | operation op => exact h.alike_operation op

/-- A session goes the same way over both clients: the results decide what is called next. -/
theorem run (h : c.Twins a b) (session : Session) {s t : Script} (hmatched : s.Matched a b t) :
    (session.run (c.withCredentials a) s).1 = (session.run (c.withCredentials b) t).1 ∧
      Script.Matched a b (session.run (c.withCredentials a) s).2
        (session.run (c.withCredentials b) t).2 := by
  induction session generalizing s t with
  | done => exact ⟨rfl, hmatched⟩
  | call x next ih =>
    obtain ⟨hresult, hleft⟩ := h.alike_on x s t hmatched
    rw [Session.run, Session.run]
    dsimp only
    -- One result on both sides, so what is called next is the same too.
    rw [hresult]
    obtain ⟨hrest, hend⟩ := ih _ hleft
    exact ⟨congrArg _ hrest, hend⟩

end Endpoint.Client.Twins

/-! ## Clients that are made alike -/

namespace ClientSetup

/-- The client before it is given credentials. -/
def bare (s : ClientSetup) (root : Web.Url) : Client Script :=
  ⟨root, s.tenant, none, Script.transport, s.headers.map FixedHeader.middleware, s.responses⟩

/-- Only the root can fail, and it does not depend on the credentials. -/
theorem client_eq (s : ClientSetup) (a : Credentials) :
    s.client a = (fun root => (s.bare root).withCredentials a) <$>
      Endpoint.root s.baseUrl s.tenant := by
  rw [client, Client.new]
  cases Endpoint.root s.baseUrl s.tenant with
  | error e => rfl
  | ok root =>
    let ms := s.headers.map FixedHeader.middleware
    have hrequests : ms.foldl Client.addRequestMiddleware
        ⟨root, s.tenant, some a, Script.transport, [], []⟩ =
          ⟨root, s.tenant, some a, Script.transport, ms, []⟩ :=
      Endpoint.foldl_eq_put (fun held => Client.mk root s.tenant (some a) Script.transport held [])
        (fun _ _ => rfl) [] ms
    have hresponses : s.responses.foldl Client.addResponseMiddleware
        ⟨root, s.tenant, some a, Script.transport, ms, []⟩ = (s.bare root).withCredentials a :=
      Endpoint.foldl_eq_put (Client.mk root s.tenant (some a) Script.transport ms)
        (fun _ _ => rfl) [] s.responses
    exact congrArg Except.ok
      ((congrArg (s.responses.foldl Client.addResponseMiddleware) hrequests).trans hresponses)

theorem twins_bare (s : ClientSetup) (root : Web.Url) {a b : Credentials} (ha : a.Legal)
    (hb : b.Legal) : (s.bare root).Twins a b :=
  ⟨rfl, ⟨s.headers, rfl⟩, ha, hb⟩

end ClientSetup

/-- Clients between which nothing tells but what they send, and that differs in the token alone. -/
structure Indistinct (a b : Credentials) (c d : Client Script) : Prop where
  root : c.root = d.root
  debugText : c.debugText = d.debugText
  credentials : a.debugText = b.debugText ∧ a.text = b.text
  results : ∀ (session : Session) (answers : List Endpoint.Answer),
    (session.run c (Script.new answers)).1 = (session.run d (Script.new answers)).1
  seen : ∀ (session : Session) (answers : List Endpoint.Answer),
    List.Forall₂ (TokensApart a b) (session.run c (Script.new answers)).2.seen
      (session.run d (Script.new answers)).2.seen

/-- Of two clients that are made with different tokens, and otherwise from the same, either none can
be made, for the same reason, or they are indistinct. -/
theorem token_stays_secret (s : ClientSetup) {a b : Credentials} (ha : a.Legal) (hb : b.Legal) :
    (∃ e, s.client a = .error e ∧ s.client b = .error e) ∨
      ∃ c d, s.client a = .ok c ∧ s.client b = .ok d ∧ Indistinct a b c d := by
  rw [s.client_eq, s.client_eq]
  cases Endpoint.root s.baseUrl s.tenant with
  | error e => exact Or.inl ⟨e, rfl, rfl⟩
  | ok root =>
    have hrun (session : Session) (answers : List Endpoint.Answer) :=
      (s.twins_bare root ha hb).run session
        (s := Script.new answers) (t := Script.new answers) ⟨rfl, .nil⟩
    exact Or.inr ⟨_, _, rfl, rfl, rfl, rfl, ⟨rfl, rfl⟩, fun session answers =>
      (hrun session answers).1, fun session answers => (hrun session answers).2.seen⟩

/-- The clients have a fixed header of the name by which they authorize requests. -/
theorem token_stays_secret_fixed :
    let s : ClientSetup := ⟨"https://[::1]", none, [⟨.authorization, ⟨"Basic"⟩⟩], []⟩
    let a : Credentials := ⟨"first"⟩
    let b : Credentials := ⟨"second"⟩
    a.Legal ∧ b.Legal ∧ ∃ c d, s.client a = .ok c ∧ s.client b = .ok d ∧ Indistinct a b c d := by
  intro s a b
  have ha : a.Legal := show "first".toList.all Web.isHeaderValueChar = true by decide
  have hb : b.Legal := show "second".toList.all Web.isHeaderValueChar = true by decide
  have hroot : Endpoint.root "https://[::1]" none = .ok Client.scripted.root := by rfl
  refine ⟨ha, hb, (token_stays_secret s ha hb).resolve_left ?_⟩
  rintro ⟨e, he, -⟩
  rw [s.client_eq, show Endpoint.root s.baseUrl s.tenant = _ from hroot] at he
  cases he

end PlatformLink
