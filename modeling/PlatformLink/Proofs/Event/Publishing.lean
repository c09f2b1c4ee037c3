import PlatformLink.Event.Remote
import PlatformLink.Proofs.Endpoint.Sending
import PlatformLink.Proofs.Json.Restored

/-!
# What is published of an event

An event that is an object is handed to its publisher once, as the object with the metadata put
among its members: the metadata can be read from there, whatever the event had under that key, and
all other members are as they were. What is no object is not handed on.

Over a client this is one POST at most. The client may refuse it, or make another request of it,
before it is sent: credentials must be legal in a header, and middleware has its say.
-/

namespace PlatformLink

open Endpoint
open Web (Request)

/-! ## Metadata among members -/

namespace EventMetadata

theorem restores_codec : codec.Restores :=
  Json.Codec.restores_record
    (.cons Json.Codec.restores_text nofun (by decide) <|
      .cons Json.Codec.restores_text nofun (by decide) <|
      .cons Json.Codec.restores_uint32 nofun (by decide) <|
      .cons Json.Codec.restores_uint32 nofun (by decide) .nil)
    fun _ => rfl

/-- The members of an event, and those of the value that is handed on with the metadata. -/
structure Carried (m : EventMetadata) (members own : List (String × Json)) : Prop where
  readable : ofEvent? (.obj own) = some m
  others : own.filter (·.1 != memberKey) = members.filter (·.1 != memberKey)
  /-- Keys that increase still do, so the metadata is there once. -/
  sorted : Json.SortedKeys members → Json.SortedKeys own

theorem attach_obj (m : EventMetadata) (members : List (String × Json)) :
    ∃ own, m.attach (.obj members) = .ok (.obj own) ∧ m.Carried members own := by
  refine ⟨_, rfl, ?_, Json.filter_insertMember _ _ _, Json.sortedKeys_insertMember _ _⟩
  rw [ofEvent?, Json.member?_insertMember, Option.bind_some, restores_codec m]
  rfl

theorem attach_of_not_obj (m : EventMetadata) {v : Json} (h : ∀ members, v ≠ .obj members) :
    m.attach v = .error (.validation .eventNotObject) := by
  cases v with
  | obj members => exact absurd rfl (h members)
  | _ => rfl

end EventMetadata

/-! ## What a publisher is handed -/

namespace Event

variable {σ : Type} {e : Event}

/-- A publisher that first notes what it is handed. -/
def noted (publish : Json → Call σ Unit) : Json → Call (σ × List Json) Unit := fun event s =>
  (((publish event).perform s.1).1, ((publish event).perform s.1).2, s.2 ++ [event])

theorem published_eq {body : Json} (h : e.body = .ok body) :
    e.published = e.metadata.attach body := by
  rw [published, h]
  rfl

theorem publishBy_of_ok {v : Json} (h : e.published = .ok v) (publish : Json → Call σ Unit) :
    e.publishBy publish = publish v := by
  rw [publishBy, h]
  rfl

theorem publishBy_of_error {fault : LinkError} (h : e.published = .error fault)
    (publish : Json → Call σ Unit) : e.publishBy publish = throw (.failed fault) := by
  rw [publishBy, h]
  rfl

/-! ## Publishing over a client -/

/-- The request that posts an event. -/
def posting (c : Client σ) (event : Json) : Request :=
  ⟨.post, c.urlFor resource, [], some event⟩

theorem sendsOne_post (c : Client σ) (event : Json) :
    SendsOne (c.Sends (posting c event)) (∃ q, c.Sends (posting c event) q)
      (c.recorded.post resource event) (c.post resource event) :=
  SendsOne.bind_silent (c.sendsOne_sends (posting c event)) fun _ => Records.pure ()

/-! ## What is published -/

/-- What comes of a value that is published for an event: by any publisher, and over a client. -/
structure HandsOn (e : Event) (value : Json) : Prop where
  /-- A publisher is handed the value, and nothing else. -/
  once : ∀ {σ : Type} (publish : Json → Call σ Unit) (s : σ),
    (e.publishBy (noted publish)).perform (s, []) =
      (((publish value).perform s).1, ((publish value).perform s).2, [value])
  /-- With a token that was cancelled before nothing is sent. -/
  cancelled : ∀ {σ : Type} (c : Client σ) (s : σ),
    (e.publishBy (publishRemote c.recorded .before)).perform (s, []) =
      (.error (.failed .cancelled), s, [])
  /-- With a token that is never cancelled the client posts the value: what it makes of the POST is
  sent, if it makes something of it, and nothing else. -/
  posted : ∀ {σ : Type} (c : Client σ) (s : σ), ∃ sent : Option Request,
    (e.publishBy (publishRemote c.recorded .never)).perform (s, []) =
      (((c.post resource value).perform s).1, ((c.post resource value).perform s).2, sent.toList) ∧
    (∀ q, sent = some q ↔ c.Sends (posting c value) q) ∧
    (c.LegalCredentials → (∀ m ∈ c.requestMiddleware, Client.TouchesHeaders m) →
      ∃ headers, sent = some { posting c value with headers := headers })

theorem handsOn_of_published {e : Event} {value : Json} (h : e.published = .ok value) :
    e.HandsOn value := by
  constructor
  case once =>
    intro σ publish s
    rw [publishBy_of_ok h]
    rfl
  case cancelled =>
    intro σ c s
    rw [publishBy_of_ok h]
    rfl
  case posted =>
    intro σ c s
    obtain ⟨sent, hperform, hsent, hsurely⟩ := sendsOne_post c value s []
    have hiff : ∀ q, sent = some q ↔ c.Sends (posting c value) q := by
      intro q
      constructor
      · exact hsent q
      · intro hq
        obtain ⟨p, rfl⟩ := Option.isSome_iff_exists.mp (hsurely ⟨q, hq⟩)
        have hp := hsent p rfl
        rw [Except.ok.inj (hp.2.symm.trans hq.2)]
    refine ⟨sent, ?_, hiff, fun hlegal hmiddleware => ?_⟩
    · rw [publishBy_of_ok h]
      exact hperform
    · obtain ⟨headers, hsends⟩ := hlegal.exists_sends hmiddleware (posting c value)
      exact ⟨headers, (hiff _).mpr hsends⟩

/-- What comes of an event that is serialized as `body`. -/
structure Publishes (e : Event) (body : Json) : Prop where
  /-- An object is handed on with the metadata among its members. -/
  object : ∀ members, body = .obj members →
    ∃ own, e.metadata.Carried members own ∧ e.HandsOn (.obj own)
  /-- Anything else is not handed on. -/
  refused : (∀ members, body ≠ .obj members) →
    ∀ {σ : Type} (publish : Json → Call σ Unit) (s : σ),
      (e.publishBy (noted publish)).perform (s, []) =
        (.error (.failed (.validation .eventNotObject)), s, [])

/-- Every event that can be serialized is published with metadata that can be read back, or not at
all. -/
theorem publishes_readable_metadata {e : Event} {body : Json} (h : e.body = .ok body) :
    e.Publishes body := by
  constructor
  case object =>
    rintro members rfl
    obtain ⟨own, hattach, hcarried⟩ := e.metadata.attach_obj members
    exact ⟨own, hcarried, handsOn_of_published ((published_eq h).trans hattach)⟩
  case refused =>
    intro hbody σ publish s
    rw [publishBy_of_error ((published_eq h).trans (e.metadata.attach_of_not_obj hbody))]
    rfl

/-- An event with a member under the key of the metadata. -/
def taken : Event where
  body := .ok (.obj [("id", .str "7"), ("metadata", .arr [.null])])
  metadata := ⟨"order", "created", 4294967295, 0⟩

theorem publishes_readable_metadata_taken :
    taken.body = .ok (.obj [("id", .str "7"), ("metadata", .arr [.null])]) ∧
      taken.Publishes (.obj [("id", .str "7"), ("metadata", .arr [.null])]) :=
  ⟨rfl, publishes_readable_metadata rfl⟩

/-- A client whose credentials break the line of their header. -/
def brokenClient : Client Script where
  root := ⟨"https", "", some "[::1]", none, false, .segments ["api", "v1"], none, none⟩
  tenant := none
  credentials := some ⟨"a\nb"⟩
  transport := Script.transport
  requestMiddleware := []
  responseMiddleware := []

/-- The token is never cancelled and the event is an object, but no POST is sent. -/
theorem broken_client_posts_nothing :
    taken.body = .ok (.obj [("id", .str "7"), ("metadata", .arr [.null])]) ∧
      (taken.publishBy (publishRemote brokenClient.recorded .never)).perform (Script.new [], []) =
        (.error (.failed (.configuration .credentials)), Script.new [], []) :=
  ⟨rfl, by rfl⟩

end Event

end PlatformLink
