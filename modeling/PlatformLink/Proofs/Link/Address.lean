import Mathlib.Data.List.Forall2
import PlatformLink.Proofs.Endpoint.SingleRequest
import PlatformLink.Proofs.Link.Confinement
import PlatformLink.Proofs.Web.Segment

/-!
# Addresses of resources

An operation on one resource fixes a template: names of its own, and between them places for
identifiers and for numbers. The identifiers are those of the caller, of whom only blank ones are
refused. How far the URL of the request tells what was put into the template is a question of what a
path keeps: an identifier that it keeps stands in its place as one segment, and can be read back
from it. One that it does not keep spoils the path, and none is alone with its URL.
-/

namespace PlatformLink

open Endpoint
open Web

/-- A name of letters and digits. -/
structure PlainName where
  text : String
  plain : Plain text
  deriving DecidableEq

/-- A part of a path: a name of the template, or what is put into it. -/
inductive PathPart where
  | name (n : PlainName)
  | id (s : String)
  | number (n : UInt32)
  deriving DecidableEq

namespace PathPart

def text : PathPart → String
  | name n => n.text
  | id s => s
  | number n => toString n.toNat

/-- The part of the template. -/
def slot : PathPart → PathPart
  | name n => name n
  | id _ => id ""
  | number _ => number 0

/-- The part with another identifier. -/
def renamed (f : String → String) : PathPart → PathPart
  | name n => name n
  | id s => id (f s)
  | number n => number n

/-- A segment in the place of the part: a name or a number as it is, an identifier encoded. -/
def IsToldBy (segment : String) : PathPart → Prop
  | name n => segment = n.text
  | id s => SlashFree segment ∧ segmentText? segment = some s
  | number n => segment = toString n.toNat

end PathPart

/-- Where a resource lies: in a collection, under an identifier, and then what else leads to it. -/
structure Address where
  collection : PlainName
  id : String
  rest : List PathPart

namespace Address

def parts (a : Address) : List PathPart :=
  .name a.collection :: .id a.id :: a.rest

theorem eq_of_parts_eq {a b : Address} (h : a.parts = b.parts) : a = b := by
  obtain ⟨collection, id, rest⟩ := a
  cases h
  rfl

def texts (a : Address) : List String :=
  a.parts.map PathPart.text

def template (a : Address) : List PathPart :=
  a.parts.map PathPart.slot

def renamed (f : String → String) (a : Address) : Address :=
  ⟨a.collection, f a.id, a.rest.map (PathPart.renamed f)⟩

/-- An address of which every identifier is let pass. -/
def Accepted (a : Address) : Prop :=
  ∀ s, .id s ∈ a.parts → Text.isBlank s = false

/-- An address of which a path keeps every identifier. -/
def Kept (a : Address) : Prop :=
  ∀ s, .id s ∈ a.parts → IsKept s

end Address

namespace Operation

variable {α : Type}

def summaryAddress (key : Workflow.SummaryKey) : Address :=
  ⟨⟨"Summaries", by decide⟩, key.formId, [.number key.majorVersion, .id key.instanceId]⟩

/-- The address of an operation that puts identifiers into its path. -/
def address? : Operation α → Option Address
  | readActivity id => some ⟨⟨"Activities", by decide⟩, id, []⟩
  | succeedActivity id _ =>
    some ⟨⟨"Activities", by decide⟩, id, [.name ⟨"Success", by decide⟩]⟩
  | failActivity id _ => some ⟨⟨"Activities", by decide⟩, id, [.name ⟨"Failed", by decide⟩]⟩
  | readWorkflow id => some ⟨⟨"Workflows", by decide⟩, id, []⟩
  | readInstance id => some ⟨⟨"Instances", by decide⟩, id, []⟩
  | updateInstance i => some ⟨⟨"Instances", by decide⟩, i.id, []⟩
  | readForm id => some ⟨⟨"Forms", by decide⟩, id, []⟩
  | updateForm f => some ⟨⟨"Forms", by decide⟩, f.id, []⟩
  | createVersion formId _ =>
    some ⟨⟨"Forms", by decide⟩, formId, [.name ⟨"Versions", by decide⟩]⟩
  | readVersion formId majorVersion =>
    some ⟨⟨"Forms", by decide⟩, formId,
      [.name ⟨"Versions", by decide⟩, .number majorVersion]⟩
  | extendSemaphore id _ =>
    some ⟨⟨"Semaphores", by decide⟩, id, [.name ⟨"Extend", by decide⟩]⟩
  | lowerSemaphore id => some ⟨⟨"Semaphores", by decide⟩, id, [.name ⟨"Lower", by decide⟩]⟩
  | readSummary key => some (summaryAddress key)
  | createStored key _ => some (summaryAddress key)
  | updateStored key _ => some (summaryAddress key)
  | readStored key => some (summaryAddress key)
  | _ => none

/-- The operation on other identifiers. -/
def renamed (f : String → String) : Operation α → Operation α
  | readActivity id => readActivity (f id)
  | succeedActivity id result => succeedActivity (f id) result
  | failActivity id failure => failActivity (f id) failure
  | readWorkflow id => readWorkflow (f id)
  | readInstance id => readInstance (f id)
  | updateInstance i => updateInstance { i with id := f i.id }
  | readForm id => readForm (f id)
  | updateForm form => updateForm { form with id := f form.id }
  | createVersion formId v => createVersion (f formId) v
  | readVersion formId majorVersion => readVersion (f formId) majorVersion
  | extendSemaphore id seconds => extendSemaphore (f id) seconds
  | lowerSemaphore id => lowerSemaphore (f id)
  | readSummary key => readSummary ⟨f key.formId, key.majorVersion, f key.instanceId⟩
  | createStored key s => createStored ⟨f key.formId, key.majorVersion, f key.instanceId⟩ s
  | updateStored key s => updateStored ⟨f key.formId, key.majorVersion, f key.instanceId⟩ s
  | readStored key => readStored ⟨f key.formId, key.majorVersion, f key.instanceId⟩
  | op => op

theorem address?_renamed (f : String → String) (op : Operation α) :
    (op.renamed f).address? = op.address?.map (Address.renamed f) := by
  cases op <;> rfl

end Operation

/-- The URL of a resource. -/
def Endpoint.Client.resource {σ : Type} (c : Client σ) (a : Address) : Url :=
  c.urlFor a.texts

/-! ## What each operation sends -/

section

variable {σ α : Type} {c : Client σ}

theorem checkId_eq_ok {id : String} (h : Text.isBlank id = false) (service : Workflow.ServiceName)
    (subject : String) : Workflow.checkId service subject id = .ok () := by
  rw [Workflow.checkId, h]
  rfl

theorem checkKey_eq_ok {key : Workflow.SummaryKey} (h : (Operation.summaryAddress key).Accepted) :
    Workflow.Remote.checkKey key = .ok () := by
  have hform := checkId_eq_ok (h key.formId (by simp [Address.parts, Operation.summaryAddress]))
    .summary "form id"
  have hinstance := checkId_eq_ok
    (h key.instanceId (by simp [Address.parts, Operation.summaryAddress])) .summary "instance id"
  rw [Workflow.Remote.checkKey, hform, ok_bind, hinstance]

/-- A call that sends one request for a resource at most, and surely one if the identifiers are let
pass and the client refuses nothing. -/
abbrev Asks (c : Client σ) (a : Address) (x : Call (σ × List Request) α) (y : Call σ α) : Prop :=
  SendsOne (c.MadeFor (c.resource a)) (a.Accepted ∧ c.Ready) x y

theorem asks_checked {a : Address} {x : Call (σ × List Request) α} {y : Call σ α}
    (h : SendsOne (c.MadeFor (c.resource a)) c.Ready x y) (service : Workflow.ServiceName)
    (subject : String) :
    Asks c a (Workflow.Remote.checked service subject a.id x)
      (Workflow.Remote.checked service subject a.id y) := by
  refine SendsOne.ofOutcome_bind ?_ fun _ _ => h.imp And.right
  rintro ⟨haccepted, -⟩
  exact ⟨(), checkId_eq_ok (haccepted a.id (by simp [Address.parts])) service subject⟩

theorem asks_checkedKey {key : Workflow.SummaryKey} {x : Call (σ × List Request) α} {y : Call σ α}
    (h : SendsOne (c.MadeFor (c.resource (Operation.summaryAddress key))) c.Ready x y) :
    Asks c (Operation.summaryAddress key)
      (Call.ofOutcome (Workflow.Remote.checkKey key) >>= fun _ => x)
      (Call.ofOutcome (Workflow.Remote.checkKey key) >>= fun _ => y) := by
  refine SendsOne.ofOutcome_bind ?_ fun _ _ => h.imp And.right
  rintro ⟨haccepted, -⟩
  exact ⟨(), checkKey_eq_ok haccepted⟩

theorem asks_readStored (key : Workflow.SummaryKey) :
    Asks c (Operation.summaryAddress key) ((Workflow.Remote.summaryStore c.recorded).read key)
      ((Workflow.Remote.summaryStore c).read key) := by
  have hread : Asks c (Operation.summaryAddress key) ((Workflow.Remote.summary c.recorded).read key)
      ((Workflow.Remote.summary c).read key) := asks_checkedKey (c.sendsOne_sendJson rfl _)
  refine SendsOne.tryCatch_silent (SendsOne.map hread some) fun stop => ?_
  split
  · exact Records.pure none
  · exact Records.throw _

/-- An operation with an address sends what it sends to the resource there. -/
theorem asks_call {op : Operation α} {a : Address} (h : op.address? = some a) :
    Asks c a (op.call c.recorded) (op.call c) := by
  cases op <;> cases h
  case readActivity => exact asks_checked (c.sendsOne_sendJson rfl _) _ _
  case succeedActivity => exact asks_checked (c.sendsOne_sendEmpty rfl) _ _
  case failActivity => exact asks_checked (c.sendsOne_sendEmpty rfl) _ _
  case readWorkflow => exact asks_checked (c.sendsOne_sendJson rfl _) _ _
  case readInstance => exact asks_checked (c.sendsOne_sendJson rfl _) _ _
  case updateInstance => exact asks_checked (c.sendsOne_sendJson rfl _) _ _
  case readForm => exact asks_checked (c.sendsOne_sendJson rfl _) _ _
  case updateForm => exact asks_checked (c.sendsOne_sendJson rfl _) _ _
  case createVersion => exact asks_checked (c.sendsOne_sendJson rfl _) _ _
  case readVersion => exact asks_checked (c.sendsOne_sendJson rfl _) _ _
  case extendSemaphore => exact asks_checked (c.sendsOne_sendJson rfl _) _ _
  case lowerSemaphore => exact asks_checked (c.sendsOne_sendEmpty rfl) _ _
  case readSummary => exact asks_checkedKey (c.sendsOne_sendJson rfl _)
  case createStored => exact asks_checkedKey (c.sendsOne_sendEmpty rfl)
  case updateStored => exact asks_checkedKey (c.sendsOne_sendEmpty rfl)
  case readStored key => exact asks_readStored key

end

/-! ## What the path tells -/

/-- Digits stand for themselves in a path. -/
theorem plain_toString (n : Nat) : Plain (toString n) := by
  have htext : (toString n).toList = Nat.toDigits 10 n := String.toList_ofList
  intro d hd
  rw [htext] at hd
  have hdigit := Nat.isDigit_of_mem_toDigits (by decide) (by decide) hd
  rw [Char.isAlphanum, hdigit, Bool.or_true]

theorem toString_injective {m n : Nat} (h : toString m = toString n) : m = n := by
  have hdigits : Nat.toDigits 10 m = Nat.toDigits 10 n := String.ofList_injective h
  rw [← Nat.ofDigitChars_toDigits (by decide : 1 < 10) (by decide) (n := m), hdigits,
    Nat.ofDigitChars_toDigits (by decide) (by decide)]

namespace PathPart

/-- A part of which a path keeps the text. -/
theorem isKept_text {p : PathPart} (h : ∀ s, p = .id s → IsKept s) : IsKept p.text := by
  cases p with
  | name n => exact n.plain.isKept
  | id s => exact h s rfl
  | number n => exact (plain_toString n.toNat).isKept

theorem isToldBy_segmentOf {p : PathPart} (h : ∀ s, p = .id s → IsKept s) :
    p.IsToldBy (segmentOf .specialSegment p.text.toList) := by
  cases p with
  | name n => exact n.plain.segmentOf_eq
  | id s => exact ⟨slashFree_segmentOf (by decide) s.toList, (h s rfl).segmentText? (by decide)⟩
  | number n => exact (plain_toString n.toNat).segmentOf_eq

variable {p q : PathPart} {segment : String}

theorem IsToldBy.segmentText? (h : p.IsToldBy segment) : segmentText? segment = some p.text := by
  cases p with
  | name n =>
    rw [show segment = n.text from h]
    exact n.plain.segmentText?
  | id s => exact h.2
  | number n =>
    rw [show segment = toString n.toNat from h]
    exact (plain_toString n.toNat).segmentText?

theorem IsToldBy.slashFree (h : p.IsToldBy segment) : SlashFree segment := by
  cases p with
  | name n =>
    rw [show segment = n.text from h]
    exact n.plain.slashFree
  | id s => exact h.1
  | number n =>
    rw [show segment = toString n.toNat from h]
    exact (plain_toString n.toNat).slashFree

/-- In one place of a template a segment tells one part. -/
theorem IsToldBy.eq (hp : p.IsToldBy segment) (hq : q.IsToldBy segment) (h : p.slot = q.slot) :
    p = q := by
  have htext : p.text = q.text := Option.some.inj (hp.segmentText?.symm.trans hq.segmentText?)
  cases p <;> cases q <;> cases h
  case name => rfl
  case id => exact congrArg PathPart.id htext
  case number => exact congrArg PathPart.number (UInt32.toNat_inj.mp (toString_injective htext))

/-! ### Segments that tell parts -/

theorem segmentText?_of_told {segments : List String} {ps : List PathPart}
    (h : List.Forall₂ IsToldBy segments ps) :
    segments.map segmentText? = (ps.map text).map some := by
  induction h with
  | nil => rfl
  | cons hfirst _ ih =>
    rw [List.map_cons, List.map_cons, List.map_cons, hfirst.segmentText?, ih]

theorem slashFree_of_told {segments : List String} {ps : List PathPart}
    (h : List.Forall₂ IsToldBy segments ps) : ∀ s ∈ segments, SlashFree s := by
  induction h with
  | nil => nofun
  | cons hfirst _ ih =>
    intro s hs
    rcases List.mem_cons.mp hs with rfl | hs
    · exact hfirst.slashFree
    · exact ih s hs

theorem told_of_kept {ps : List PathPart} (h : ∀ s, .id s ∈ ps → IsKept s) :
    List.Forall₂ IsToldBy ((ps.map text).map fun s => segmentOf .specialSegment s.toList) ps := by
  rw [List.map_map, List.forall₂_map_left_iff, List.forall₂_same]
  intro p hp
  refine isToldBy_segmentOf fun s hs => h s ?_
  rw [← hs]
  exact hp

theorem eq_of_told {segments : List String} {ps qs : List PathPart}
    (hp : List.Forall₂ IsToldBy segments ps) (hq : List.Forall₂ IsToldBy segments qs)
    (h : ps.map slot = qs.map slot) : ps = qs := by
  induction hp generalizing qs with
  | nil =>
    cases hq
    rfl
  | cons hfirst _ ih =>
    obtain _ | ⟨hsame, hrest⟩ := hq
    obtain ⟨hslot, hslots⟩ := List.cons.inj h
    rw [hfirst.eq hsame hslot, ih hrest hslots]

end PathPart

namespace Address

/-- The segments that the texts of an address make behind a root. -/
def segments (a : Address) : List String :=
  (a.id :: a.rest.map PathPart.text).foldl (pushBehind .specialSegment) [a.collection.text]

theorem slashFree_of_mem_segments (a : Address) : ∀ s ∈ a.segments, SlashFree s := by
  refine slashFree_of_mem_foldl (by decide) ?_ _
  intro s hs
  rw [List.mem_singleton.mp hs]
  exact a.collection.plain.slashFree

/-- The segments tell the parts where all identifiers are kept, and only there. -/
theorem told_iff (a : Address) : List.Forall₂ PathPart.IsToldBy a.segments a.parts ↔ a.Kept := by
  have hid : ∀ s, .id s ∈ a.parts ↔ .id s ∈ PathPart.id a.id :: a.rest := by
    intro s
    simp [parts]
  constructor
  · intro htold s hs
    obtain ⟨x, behind, hsegments⟩ : ∃ x behind, a.segments = x :: behind :=
      List.exists_cons_of_ne_nil (foldl_pushBehind_ne_nil _ (List.cons_ne_nil _ _) _)
    rw [hsegments] at htold
    obtain _ | ⟨hhead, hbehind⟩ := htold
    have hpath : a.segments = [a.collection.text] ++ behind := by
      rw [hsegments, show x = a.collection.text from hhead]
      rfl
    exact kept_of_foldl hpath (PathPart.segmentText?_of_told hbehind) s
      (List.mem_map_of_mem (f := PathPart.text) ((hid s).mp hs))
  · intro hkept
    have hbehind : ∀ s, .id s ∈ PathPart.id a.id :: a.rest → IsKept s := fun s hs =>
      hkept s ((hid s).mpr hs)
    have htexts : ∀ s ∈ a.id :: a.rest.map PathPart.text, IsKept s := by
      intro s hs
      obtain ⟨p, hp, rfl⟩ : ∃ p ∈ PathPart.id a.id :: a.rest, p.text = s := List.mem_map.mp hs
      exact PathPart.isKept_text fun t ht => hbehind t (ht ▸ hp)
    rw [segments, foldl_of_kept htexts]
    exact List.Forall₂.cons rfl (PathPart.told_of_kept hbehind)

/-! ### Other identifiers -/

theorem template_renamed (f : String → String) (a : Address) :
    (a.renamed f).template = a.template := by
  have hslot : PathPart.slot ∘ PathPart.renamed f = PathPart.slot := by
    funext p
    cases p <;> rfl
  simp only [template, parts, renamed, List.map_cons, List.map_map, hslot]
  rfl

theorem accepted_twin {a : Address} (h : a.Accepted) : (a.renamed twin).Accepted := by
  intro s hs
  obtain ⟨p, hp, hrenamed⟩ := List.mem_map.mp (show _ ∈ a.parts.map (PathPart.renamed twin) from hs)
  cases p <;> cases hrenamed
  rw [isBlank_twin]
  exact h _ hp

theorem renamed_twin_ne (a : Address) : a.renamed twin ≠ a := fun h =>
  twin_ne a.id (congrArg Address.id h)

/-- Twins of all identifiers make the same segments. -/
theorem segments_twin (a : Address) : (a.renamed twin).segments = a.segments := by
  have hpush : ∀ path (p : PathPart), pushBehind .specialSegment path (p.renamed twin).text =
      pushBehind .specialSegment path p.text := by
    intro path p
    cases p with
    | name => rfl
    | id s => exact pushBehind_twin .specialSegment path s
    | number => rfl
  simp only [segments, renamed, List.foldl_cons, List.foldl_map, List.map_map, hpush,
    Function.comp_apply, pushBehind_twin]

end Address

/-! ## URLs of resources -/

/-- The path of the URL is that of the root and then one segment for each part of the address. -/
def Tells (root u : Url) (a : Address) : Prop :=
  ∃ segments, List.Forall₂ PathPart.IsToldBy segments a.parts ∧
    u.pathText = withoutSlash root.pathText ++ segmentsText segments

section

variable {σ α : Type} {c : Client σ} {tenant : Option Tenant}

theorem exists_resource_eq (hroot : WebRoot tenant c.root) :
    ∃ ss, withoutSlash c.root.pathText = segmentsText ss ∧
      ∀ a, c.resource a = { c.root with path := .segments (ss ++ a.segments) } := by
  obtain ⟨ss, hss, hurl⟩ := exists_urlFor_eq hroot
  exact ⟨ss, hss, fun a => hurl a.collection.plain (a.id :: a.rest.map PathPart.text)⟩

theorem pathText_resource (hroot : WebRoot tenant c.root) (a : Address) :
    (c.resource a).pathText = withoutSlash c.root.pathText ++ segmentsText a.segments := by
  obtain ⟨ss, hss, hresource⟩ := exists_resource_eq hroot
  rw [hss, ← segmentsText_append, hresource]
  simp [Url.pathText, hroot.unguarded]

theorem tells_resource_iff (hroot : WebRoot tenant c.root) (a : Address) :
    Tells c.root (c.resource a) a ↔ a.Kept := by
  rw [Tells, pathText_resource hroot, ← a.told_iff]
  constructor
  · rintro ⟨segments, htold, htext⟩
    have hsegments := segmentsText_inj a.slashFree_of_mem_segments
      (PathPart.slashFree_of_told htold) ((String.append_right_inj _).mp htext)
    rw [hsegments]
    exact htold
  · intro htold
    exact ⟨a.segments, htold, rfl⟩

/-- Under one root resources have one URL as far as their addresses make the same segments. -/
theorem text_resource_eq_iff (hroot : WebRoot tenant c.root) (a b : Address) :
    (c.resource a).text = (c.resource b).text ↔ a.segments = b.segments := by
  obtain ⟨ss, -, hresource⟩ := exists_resource_eq hroot
  constructor
  · intro h
    have hpath : (c.resource a).pathText = (c.resource b).pathText := by
      rw [hresource, hresource] at h ⊢
      exact pathText_eq_of_text_eq h
    rw [pathText_resource hroot, pathText_resource hroot, String.append_right_inj] at hpath
    exact segmentsText_inj a.slashFree_of_mem_segments b.slashFree_of_mem_segments hpath
  · intro h
    rw [hresource, hresource, h]

/-- How an operation over a client finds its resource. -/
structure Addressing (c : Client σ) (op : Operation α) (a : Address) : Prop where
  asked : ∀ s, ∃ sent : Option Request,
    (op.call c.recorded).perform (s, []) =
        (((op.call c).perform s).1, ((op.call c).perform s).2, sent.toList) ∧
      (∀ r ∈ sent, c.MadeFor (c.resource a) r) ∧
      ((∀ m ∈ c.requestMiddleware, KeepsUrl m) → ∀ r ∈ sent, r.url = c.resource a) ∧
      (a.Accepted → c.Ready → sent.isSome = true)
  told : Tells c.root (c.resource a) a ↔ a.Kept
  apart : ∀ b : Address, b.template = a.template → a.Kept → b.Kept →
    (c.resource b).text = (c.resource a).text → b = a
  shared : a.Accepted → ∃ b, (op.renamed twin).address? = some b ∧ b.template = a.template ∧
    b.Accepted ∧ b ≠ a ∧ (c.resource b).text = (c.resource a).text

/-- An operation that puts identifiers into its path sends at most one request, which is made for
the resource at its address, and surely one if no identifier is blank and the client refuses
nothing. The path tells each part of the address in its place exactly if all identifiers are kept,
and then no other kept identifiers in the same template have the same URL. No resource has its URL
to itself, though: with every identifier let pass there are others that are let pass, and with them
the same operation asks for the same URL. -/
theorem addressing_of_operation {baseUrl : String}
    (hroot : Endpoint.root baseUrl tenant = .ok c.root) (hweb : IsWebScheme c.root.scheme)
    {op : Operation α} {a : Address} (hop : op.address? = some a) : Addressing c op a := by
  have hroot := webRoot_of_root hroot hweb
  refine ⟨?_, tells_resource_iff hroot a, ?_, ?_⟩
  · intro s
    obtain ⟨sent, hperform, hsent, hsurely⟩ := asks_call hop s []
    exact ⟨sent, hperform, hsent, fun hms r hr => (hsent r hr).url_eq hms,
      fun haccepted hready => hsurely ⟨haccepted, hready⟩⟩
  · intro b htemplate ha hb htext
    have htold := b.told_iff.mpr hb
    rw [(text_resource_eq_iff hroot b a).mp htext] at htold
    exact Address.eq_of_parts_eq (PathPart.eq_of_told htold (a.told_iff.mpr ha) htemplate)
  · intro haccepted
    refine ⟨a.renamed twin, ?_, a.template_renamed twin, Address.accepted_twin haccepted,
      a.renamed_twin_ne, (text_resource_eq_iff hroot _ a).mpr a.segments_twin⟩
    rw [Operation.address?_renamed, hop]
    rfl

end

theorem addressing_of_operation_summary :
    scriptedClient.Ready ∧ (Operation.summaryAddress ⟨"onboarding", 2, "a/b"⟩).Accepted ∧
      (Operation.summaryAddress ⟨"onboarding", 2, "a/b"⟩).Kept ∧
      Addressing scriptedClient (.readStored ⟨"onboarding", 2, "a/b"⟩)
        (Operation.summaryAddress ⟨"onboarding", 2, "a/b"⟩) := by
  have hroot : Endpoint.root "https://[::1]" (some ⟨"acme", "prod"⟩) = .ok scriptedClient.root := by
    rfl
  have hids : ∀ s, .id s ∈ (Operation.summaryAddress ⟨"onboarding", 2, "a/b"⟩).parts →
      s ∈ ["onboarding", "a/b"] := by
    simp [Address.parts, Operation.summaryAddress]
  refine ⟨fun r => ⟨_, _, rfl, rfl⟩, fun s hs => ?_, fun s hs => ?_,
    addressing_of_operation hroot (by decide) rfl⟩
  · exact (by decide : ∀ s ∈ ["onboarding", "a/b"], Text.isBlank s = false) s (hids s hs)
  · exact (by decide : ∀ s ∈ ["onboarding", "a/b"], IsKept s) s (hids s hs)

/-- Two semaphores that are let pass, of which the requests go to one URL. -/
theorem tab_shares_url :
    Workflow.checkId .semaphore "holder id" "a\tb" = .ok () ∧
      Workflow.checkId .semaphore "holder id" "ab" = .ok () ∧
      ∀ id ∈ ["a\tb", "ab"],
        (((Operation.lowerSemaphore id).call scriptedClient.recorded).perform
            (Script.new [], [])).2.2.map (fun r => r.url.text) =
          ["https://[::1]/api/v1/acme/prod/Semaphores/ab/Lower"] := by
  decide +kernel

end PlatformLink
