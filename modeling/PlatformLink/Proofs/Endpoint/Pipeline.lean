import Mathlib.Data.List.Basic
import PlatformLink.Proofs.Endpoint.Leakage

/-!
# The way of a request

Sending is written once more for middleware that may look at the state, change it, or never answer
(`Client.sendThrough`). The middleware of a client is the case that leaves the state alone. With the
state at hand every stage can be watched: a watched stage notes what it is given, and then does what
it did before.

`Course` tells stage by stage what can happen to a request, and what is called on the way. It speaks
of the stages one by one and of no run. A watched client notes the course of what it sends.
-/

namespace PlatformLink.Endpoint

open Web (Request Response HeaderValue)

variable {σ α β : Type}

/-- What is called on the way, and with what; middleware is called by its place. -/
inductive Visit where
  | request (place : Nat) (r : Request)
  | transport (r : Request)
  | response (place : Nat) (r : Response)

def Visit.transported? : Visit → Option Request
  | transport r => some r
  | _ => none

/-! ## Middleware with effects -/

structure Middleware (σ : Type) where
  request : List (Request → Call σ Request)
  response : List (Response → Call σ Response)

/-- A stage that looks at no state. -/
def stageOf (f : α → Outcome α) : α → Call σ α :=
  fun x => Call.ofOutcome (f x)

/-- Passes a value through stages in their order, up to the first that stops. -/
def passAll : List (α → Call σ α) → α → Call σ α
  | [], x => pure x
  | f :: rest, x => f x >>= passAll rest

theorem passAll_map_stageOf (fs : List (α → Outcome α)) (x : α) :
    passAll (fs.map stageOf) x = (Call.ofOutcome (passThrough fs x) : Call σ α) := by
  induction fs generalizing x with
  | nil => rfl
  | cons f rest ih =>
    rw [List.map_cons, passAll, passThrough, stageOf]
    cases f x with
    | error e => rfl
    | ok y => exact ih y

namespace Client

def middleware (c : Client σ) : Middleware σ :=
  ⟨c.requestMiddleware.map stageOf, c.responseMiddleware.map stageOf⟩

/-- Sends a request through other middleware than the client's own. -/
def sendThrough (c : Client σ) (m : Middleware σ) (r : Request) : Call σ Response := do
  let r ← Call.ofOutcome (c.prepare r)
  let r ← passAll m.request r
  let response ← c.transport r
  let response ← passAll m.response response
  Call.ofOutcome (checkStatus response)

theorem sendThrough_middleware (c : Client σ) (r : Request) :
    c.sendThrough c.middleware r = c.send r := by
  simp only [sendThrough, send, middleware, passAll_map_stageOf]

end Client

/-! ## Registration -/

/-- Middleware that a client is given, of the one kind or the other. -/
inductive Registration where
  | request (f : RequestMiddleware)
  | response (f : ResponseMiddleware)

namespace Registration

def request? : Registration → Option RequestMiddleware
  | request f => some f
  | response _ => none

def response? : Registration → Option ResponseMiddleware
  | request _ => none
  | response f => some f

end Registration

/-- A list that is only appended to holds, in their order, what the steps brought. -/
theorem foldl_eq_append_filterMap {ι τ : Type} {step : τ → ι → τ} {held : τ → List α}
    {brought : ι → Option α} (h : ∀ s i, held (step s i) = held s ++ (brought i).toList) (s : τ)
    (steps : List ι) : held (steps.foldl step s) = held s ++ steps.filterMap brought := by
  induction steps generalizing s with
  | nil => simp
  | cons i rest ih =>
    rw [List.foldl_cons, ih, h, List.append_assoc, List.filterMap_cons]
    cases brought i <;> rfl

/-- Steps that only append to the one list that `put` sets. -/
theorem foldl_eq_put {τ : Type} {step : τ → α → τ} (put : List α → τ)
    (h : ∀ held x, step (put held) x = put (held ++ [x])) (held xs : List α) :
    xs.foldl step (put held) = put (held ++ xs) := by
  have happend (held : List α) (x : α) : id (held ++ [x]) = id held ++ (some x).toList := rfl
  have happended := foldl_eq_append_filterMap happend held xs
  rw [List.filterMap_some, id, id] at happended
  rw [List.foldl_hom put h, happended]

namespace Client

def register (c : Client σ) : Registration → Client σ
  | .request f => c.addRequestMiddleware f
  | .response f => c.addResponseMiddleware f

theorem requestMiddleware_register (c : Client σ) (f : Registration) :
    (c.register f).requestMiddleware = c.requestMiddleware ++ f.request?.toList := by
  cases f with
  | request f => rfl
  | response f => exact (List.append_nil _).symm

theorem responseMiddleware_register (c : Client σ) (f : Registration) :
    (c.register f).responseMiddleware = c.responseMiddleware ++ f.response?.toList := by
  cases f with
  | request f => exact (List.append_nil _).symm
  | response f => rfl

end Client

/-! ## Stages that are watched -/

/-- A stage that first notes what it is given. -/
def watched (visit : α → Visit) (f : α → Call σ β) : α → Call (σ × List Visit) β := fun x s =>
  (((f x).perform s.1).1, ((f x).perform s.1).2, s.2 ++ [visit x])

theorem perform_watched (visit : α → Visit) (f : α → Call σ β) (x : α) (s : σ)
    (notes : List Visit) :
    (watched visit f x).perform (s, notes) =
      (((f x).perform s).1, ((f x).perform s).2, notes ++ [visit x]) := rfl

def watchedAll (visit : Nat → α → Visit) (fs : List (α → Call σ α)) :
    List (α → Call (σ × List Visit) α) :=
  fs.mapIdx fun i f => watched (visit i) f

def Middleware.watched (m : Middleware σ) : Middleware (σ × List Visit) :=
  ⟨watchedAll .request m.request, watchedAll .response m.response⟩

namespace Client

/-- The client over a watched transport. -/
def watched (c : Client σ) : Client (σ × List Visit) :=
  ⟨c.root, c.tenant, c.credentials, Endpoint.watched .transport c.transport, c.requestMiddleware,
    c.responseMiddleware⟩

theorem prepare_watched (c : Client σ) (r : Request) : c.watched.prepare r = c.prepare r := rfl

theorem transport_watched (c : Client σ) :
    c.watched.transport = Endpoint.watched .transport c.transport := rfl

/-- What is called while a request is sent, in the order of the calls. -/
def visits (c : Client σ) (m : Middleware σ) (r : Request) (s : σ) : List Visit :=
  ((c.watched.sendThrough m.watched r).perform (s, [])).2.2

end Client

/-! ## Chains -/

/-- What the stages of a chain are given one after the other, and how the chain ends: the first
stage gets the value that is passed, each of the others gets what the one before it made, and after
one that stops none is called. -/
inductive Passes : List (α → Call σ α) → α → σ → List α → Except Stop α → σ → Prop where
  | done (x : α) (s : σ) : Passes [] x s [] (.ok x) s
  | stops {f : α → Call σ α} (rest : List (α → Call σ α)) {x : α} {s s' : σ} {stop : Stop}
      (h : (f x).perform s = (.error stop, s')) : Passes (f :: rest) x s [x] (.error stop) s'
  | goes {f : α → Call σ α} {rest : List (α → Call σ α)} {x y : α} {s s' s'' : σ} {given : List α}
      {out : Except Stop α} (h : (f x).perform s = (.ok y, s'))
      (hrest : Passes rest y s' given out s'') : Passes (f :: rest) x s (x :: given) out s''

theorem Passes.perform_passAll {fs : List (α → Call σ α)} {x : α} {s s' : σ} {given : List α}
    {out : Except Stop α} (h : Passes fs x s given out s') :
    (passAll fs x).perform s = (out, s') := by
  induction h with
  | done x s => rfl
  | stops rest h => rw [passAll, Call.perform_bind, h]
  | goes h _ ih =>
    rw [passAll, Call.perform_bind, h]
    exact ih

/-- A watched chain does the same, and notes what its stages are given. -/
theorem Passes.perform_watchedAll {fs : List (α → Call σ α)} {x : α} {s s' : σ} {given : List α}
    {out : Except Stop α} (h : Passes fs x s given out s') (visit : Nat → α → Visit)
    (notes : List Visit) :
    (passAll (watchedAll visit fs) x).perform (s, notes) =
      (out, s', notes ++ given.mapIdx visit) := by
  -- the places of the rest begin after the first, so the numbering is left open
  induction h generalizing visit notes with
  | done x s => simp [watchedAll, passAll, Call.perform_pure]
  | stops rest h =>
    rw [watchedAll, List.mapIdx_cons, passAll, Call.perform_bind, perform_watched, h]
    simp
  | goes h _ ih =>
    rw [watchedAll, List.mapIdx_cons, passAll, Call.perform_bind, perform_watched, h]
    refine (ih (fun i => visit (i + 1)) _).trans ?_
    rw [List.mapIdx_cons, ← List.append_cons]

theorem exists_passes (fs : List (α → Call σ α)) (x : α) (s : σ) :
    ∃ given out s', Passes fs x s given out s' := by
  induction fs generalizing x s with
  | nil => exact ⟨_, _, _, .done x s⟩
  | cons f rest ih =>
    rcases h : (f x).perform s with ⟨stop | y, s'⟩
    · exact ⟨_, _, _, .stops rest h⟩
    · obtain ⟨given, out, s'', hrest⟩ := ih y s'
      exact ⟨_, _, _, .goes h hrest⟩

/-! ## Preparation -/

namespace Client

/-- The credentials, if there are any, can be written into a header. -/
def LegalCredentials (c : Client σ) : Prop :=
  ∀ credentials, c.credentials = some credentials →
    credentials.authorizationHeader.toList.all Web.isHeaderValueChar = true

/-- A request that asks for JSON unless it says otherwise, with the credentials written into it. -/
def prepared (c : Client σ) (r : Request) : Request :=
  let headers := r.headers.insertIfAbsent .accept jsonMediaType
  match c.credentials with
  | none => { r with headers := headers }
  | some credentials =>
    { r with headers := headers.insert .authorization ⟨credentials.authorizationHeader⟩ }

theorem prepare_of_legal {c : Client σ} (h : c.LegalCredentials) (r : Request) :
    c.prepare r = .ok (c.prepared r) := by
  unfold prepare prepared
  cases hc : c.credentials with
  | none => rfl
  | some credentials =>
    have hparse := (HeaderValue.parse_eq_ok_iff _ _).mpr ⟨h credentials hc, rfl⟩
    dsimp only
    rw [hparse]

theorem prepare_of_not_legal {c : Client σ} (h : ¬c.LegalCredentials) (r : Request) :
    c.prepare r = .error (.configuration .credentials) := by
  unfold prepare
  cases hc : c.credentials with
  | none =>
    refine absurd ?_ h
    intro credentials hsome
    rw [hc] at hsome
    cases hsome
  | some credentials =>
    have hillegal : credentials.authorizationHeader.toList.all Web.isHeaderValueChar ≠ true := by
      intro hall
      refine h ?_
      intro other hother
      rw [hc] at hother
      rwa [← Option.some.inj hother]
    dsimp only
    rw [HeaderValue.parse, if_neg hillegal]

end Client

/-! ## Courses -/

/-- What happens to a request that a client sends from a state: what is called, what comes out, and
the state that is left. -/
inductive Course (c : Client σ) (m : Middleware σ) (r : Request) (s : σ) :
    List Visit → Except Stop Response → σ → Prop where
  | refused (hillegal : ¬c.LegalCredentials) :
      Course c m r s [] (.error (.failed (.configuration .credentials))) s
  | requestStops {given : List Request} {stop : Stop} {s' : σ} (hlegal : c.LegalCredentials)
      (hrequest : Passes m.request (c.prepared r) s given (.error stop) s') :
      Course c m r s (given.mapIdx .request) (.error stop) s'
  | transportStops {given : List Request} {q : Request} {stop : Stop} {s₁ s' : σ}
      (hlegal : c.LegalCredentials)
      (hrequest : Passes m.request (c.prepared r) s given (.ok q) s₁)
      (htransport : (c.transport q).perform s₁ = (.error stop, s')) :
      Course c m r s (given.mapIdx .request ++ [.transport q]) (.error stop) s'
  | responseStops {given : List Request} {q : Request} {answer : Response} {seen : List Response}
      {stop : Stop} {s₁ s₂ s' : σ} (hlegal : c.LegalCredentials)
      (hrequest : Passes m.request (c.prepared r) s given (.ok q) s₁)
      (htransport : (c.transport q).perform s₁ = (.ok answer, s₂))
      (hresponse : Passes m.response answer s₂ seen (.error stop) s') :
      Course c m r s (given.mapIdx .request ++ [.transport q] ++ seen.mapIdx .response)
        (.error stop) s'
  | answered {given : List Request} {q : Request} {answer last : Response} {seen : List Response}
      {s₁ s₂ s' : σ} (hlegal : c.LegalCredentials)
      (hrequest : Passes m.request (c.prepared r) s given (.ok q) s₁)
      (htransport : (c.transport q).perform s₁ = (.ok answer, s₂))
      (hresponse : Passes m.response answer s₂ seen (.ok last) s') :
      Course c m r s (given.mapIdx .request ++ [.transport q] ++ seen.mapIdx .response)
        ((checkStatus last).mapError .failed) s'

namespace Course

variable {c : Client σ} {m : Middleware σ} {r : Request} {s s' : σ} {visits : List Visit}
  {result : Except Stop Response}

theorem perform_sendThrough (h : Course c m r s visits result s') :
    (c.sendThrough m r).perform s = (result, s') := by
  simp only [Client.sendThrough, Call.perform_bind, Call.perform_ofOutcome]
  cases h with
  | refused hillegal => rw [Client.prepare_of_not_legal hillegal, error_mapError]
  | requestStops hlegal hrequest =>
    simp only [Client.prepare_of_legal hlegal, ok_mapError, hrequest.perform_passAll]
  | transportStops hlegal hrequest htransport =>
    simp only [Client.prepare_of_legal hlegal, ok_mapError, hrequest.perform_passAll, htransport]
  | responseStops hlegal hrequest htransport hresponse
  | answered hlegal hrequest htransport hresponse =>
    simp only [Client.prepare_of_legal hlegal, ok_mapError, hrequest.perform_passAll, htransport,
      hresponse.perform_passAll]

/-- A watched client notes the course. -/
theorem perform_watched (h : Course c m r s visits result s') (notes : List Visit) :
    (c.watched.sendThrough m.watched r).perform (s, notes) = (result, s', notes ++ visits) := by
  simp only [Client.sendThrough, Call.perform_bind, Call.perform_ofOutcome,
    Client.prepare_watched, Client.transport_watched, Middleware.watched]
  cases h with
  | refused hillegal =>
    rw [Client.prepare_of_not_legal hillegal, error_mapError, List.append_nil]
  | requestStops hlegal hrequest =>
    simp only [Client.prepare_of_legal hlegal, ok_mapError, hrequest.perform_watchedAll]
  | transportStops hlegal hrequest htransport =>
    simp only [Client.prepare_of_legal hlegal, ok_mapError, hrequest.perform_watchedAll,
      Endpoint.perform_watched, htransport, List.append_assoc]
  | responseStops hlegal hrequest htransport hresponse
  | answered hlegal hrequest htransport hresponse =>
    simp only [Client.prepare_of_legal hlegal, ok_mapError, hrequest.perform_watchedAll,
      Endpoint.perform_watched, htransport, hresponse.perform_watchedAll, List.append_assoc]

end Course

/-- Whatever is sent takes a course. -/
theorem exists_course (c : Client σ) (m : Middleware σ) (r : Request) (s : σ) :
    ∃ visits result s', Course c m r s visits result s' := by
  by_cases hlegal : c.LegalCredentials
  · obtain ⟨given, stop | q, s₁, hrequest⟩ := exists_passes m.request (c.prepared r) s
    · exact ⟨_, _, _, .requestStops hlegal hrequest⟩
    rcases htransport : (c.transport q).perform s₁ with ⟨stop | answer, s₂⟩
    · exact ⟨_, _, _, .transportStops hlegal hrequest htransport⟩
    obtain ⟨seen, stop | last, s₃, hresponse⟩ := exists_passes m.response answer s₂
    · exact ⟨_, _, _, .responseStops hlegal hrequest htransport hresponse⟩
    · exact ⟨_, _, _, .answered hlegal hrequest htransport hresponse⟩
  · exact ⟨_, _, _, .refused hlegal⟩

/-! ## What reaches the transport -/

theorem Visit.transport_mem_iff {q : Request} {visits : List Visit} :
    .transport q ∈ visits ↔ q ∈ visits.filterMap transported? := by
  rw [List.mem_filterMap]
  constructor
  · intro h
    exact ⟨_, h, rfl⟩
  · rintro ⟨visit, h, hq⟩
    cases visit with
    | request place r => cases hq
    | transport r => rwa [← Option.some.inj hq]
    | response place r => cases hq

theorem filterMap_transported?_mapIdx (visit : Nat → α → Visit)
    (h : ∀ i x, (visit i x).transported? = none) (xs : List α) :
    (xs.mapIdx visit).filterMap Visit.transported? = [] := by
  rw [List.filterMap_eq_nil_iff]
  intro v hv
  obtain ⟨i, hi, rfl⟩ := List.mem_mapIdx.mp hv
  exact h i xs[i]

namespace Course

variable {c : Client σ} {m : Middleware σ} {r : Request} {s s' : σ} {visits : List Visit}
  {result : Except Stop Response}

/-- Either nothing reaches the transport, because the request did not come so far, or what the
request middleware makes of the prepared request does, and nothing else. -/
theorem transported (h : Course c m r s visits result s') :
    (visits.filterMap Visit.transported? = [] ∧ ∀ q s₁, c.LegalCredentials →
        (passAll m.request (c.prepared r)).perform s ≠ (.ok q, s₁)) ∨
      ∃ q s₁, visits.filterMap Visit.transported? = [q] ∧ c.LegalCredentials ∧
        (passAll m.request (c.prepared r)).perform s = (.ok q, s₁) := by
  have hrequests := filterMap_transported?_mapIdx Visit.request fun _ _ => rfl
  have hresponses := filterMap_transported?_mapIdx Visit.response fun _ _ => rfl
  cases h with
  | refused hillegal => exact .inl ⟨rfl, fun _ _ hlegal => absurd hlegal hillegal⟩
  | requestStops hlegal hrequest =>
    refine .inl ⟨hrequests _, ?_⟩
    intro q s₁ _ hq
    rw [hrequest.perform_passAll] at hq
    cases hq
  | transportStops hlegal hrequest htransport =>
    refine .inr ⟨_, _, ?_, hlegal, hrequest.perform_passAll⟩
    rw [List.filterMap_append, hrequests]
    rfl
  | responseStops hlegal hrequest htransport hresponse
  | answered hlegal hrequest htransport hresponse =>
    refine .inr ⟨_, _, ?_, hlegal, hrequest.perform_passAll⟩
    rw [List.filterMap_append, List.filterMap_append, hrequests, hresponses]
    rfl

theorem length_transported_le (h : Course c m r s visits result s') :
    (visits.filterMap Visit.transported?).length ≤ 1 := by
  obtain ⟨hnone, -⟩ | ⟨q, s₁, hone, -⟩ := h.transported
  · rw [hnone]
    exact Nat.zero_le 1
  · rw [hone]
    exact Nat.le_refl 1

theorem transport_mem_iff (h : Course c m r s visits result s') (q : Request) :
    .transport q ∈ visits ↔ c.LegalCredentials ∧
      ∃ s₁, (passAll m.request (c.prepared r)).perform s = (.ok q, s₁) := by
  rw [Visit.transport_mem_iff]
  obtain ⟨hnone, hstops⟩ | ⟨p, s₁, hone, hlegal, hp⟩ := h.transported
  · rw [hnone]
    refine iff_of_false List.not_mem_nil ?_
    rintro ⟨hlegal, s₁, hq⟩
    exact hstops q s₁ hlegal hq
  · rw [hone, List.mem_singleton]
    constructor
    · rintro rfl
      exact ⟨hlegal, s₁, hp⟩
    · rintro ⟨-, s₂, hq⟩
      rw [hp] at hq
      exact (Except.ok.inj (Prod.mk.inj hq).1).symm

end Course

/-! ## Order -/

/-- A client that sends a request through middleware with effects, and through its own. -/
structure SendsInOrder (c : Client σ) (m : Middleware σ) (r : Request) (s : σ) : Prop where
  /-- Sending through the middleware of the client is sending. -/
  own : c.sendThrough c.middleware r = c.send r
  /-- Who watches changes nothing. -/
  unchanged : (c.watched.sendThrough m.watched r).perform (s, []) =
    (((c.sendThrough m r).perform s).1, ((c.sendThrough m r).perform s).2, c.visits m r s)
  /-- What is called, what comes out and what is left follow one of the courses. -/
  course : Course c m r s (c.visits m r s) ((c.sendThrough m r).perform s).1
    ((c.sendThrough m r).perform s).2
  at_most_once : ((c.visits m r s).filterMap Visit.transported?).length ≤ 1
  transported_iff : ∀ q, .transport q ∈ c.visits m r s ↔ c.LegalCredentials ∧
    ∃ s₁, (passAll m.request (c.prepared r)).perform s = (.ok q, s₁)
  transported_own_iff : ∀ q, .transport q ∈ c.visits c.middleware r s ↔ c.LegalCredentials ∧
    passThrough c.requestMiddleware (c.prepared r) = .ok q
  /-- The order of the middleware is the order of its registration. -/
  request_registered : ∀ registrations : List Registration,
    (registrations.foldl Client.register c).requestMiddleware =
      c.requestMiddleware ++ registrations.filterMap Registration.request?
  response_registered : ∀ registrations : List Registration,
    (registrations.foldl Client.register c).responseMiddleware =
      c.responseMiddleware ++ registrations.filterMap Registration.response?

namespace Client

theorem course_visits (c : Client σ) (m : Middleware σ) (r : Request) (s : σ) :
    Course c m r s (c.visits m r s) ((c.sendThrough m r).perform s).1
      ((c.sendThrough m r).perform s).2 := by
  obtain ⟨visits, result, s', h⟩ := exists_course c m r s
  have hvisits : c.visits m r s = visits := by
    rw [Client.visits, h.perform_watched, List.nil_append]
  rw [hvisits, h.perform_sendThrough]
  exact h

theorem sends_in_order (c : Client σ) (m : Middleware σ) (r : Request) (s : σ) :
    SendsInOrder c m r s where
  own := c.sendThrough_middleware r
  unchanged := by
    rw [(c.course_visits m r s).perform_watched, List.nil_append]
  course := c.course_visits m r s
  at_most_once := (c.course_visits m r s).length_transported_le
  transported_iff := (c.course_visits m r s).transport_mem_iff
  transported_own_iff q := by
    rw [(c.course_visits c.middleware r s).transport_mem_iff, Client.middleware,
      passAll_map_stageOf, Call.perform_ofOutcome]
    cases passThrough c.requestMiddleware (c.prepared r) <;>
      simp [ok_mapError, error_mapError]
  request_registered := foldl_eq_append_filterMap requestMiddleware_register c
  response_registered := foldl_eq_append_filterMap responseMiddleware_register c

end Client

end PlatformLink.Endpoint
