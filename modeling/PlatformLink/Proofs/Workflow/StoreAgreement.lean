import PlatformLink.Proofs.Workflow.StoreSteps
import PlatformLink.Proofs.Workflow.SummaryService

/-!
# Stores that agree

The store over a client and the store in memory are called alike, one call after the other. While
the service keeps, at the URL of each key, the value of the summary that stands under the key in
memory, a call comes to the same in both, and afterwards that is so again.
-/

namespace PlatformLink.Workflow

open Endpoint (Call Client Stop)

/-! ## Calls of any store -/

section

variable {σ : Type}

/-- What a call of a store is answered, and what it leaves. -/
def StoreCall.on (store : SummaryStore σ) (s : σ) : StoreCall → StoreAnswer × σ
  | create key v =>
    let r := (store.create key v).perform s
    (.done r.1, r.2)
  | update key v =>
    let r := (store.update key v).perform s
    (.done r.1, r.2)
  | read key =>
    let r := (store.read key).perform s
    (.found r.1, r.2)
  | createOrUpdate key v =>
    let r := (store.createOrUpdate key v).perform s
    (.done r.1, r.2)

/-- The answers to calls that are made one after the other. -/
def SummaryStore.answers (store : SummaryStore σ) : List StoreCall → σ → List StoreAnswer
  | [], _ => []
  | call :: rest, s => (call.on store s).1 :: store.answers rest (call.on store s).2

end

/-- A call with a key that has a URL of its own and a summary that a text can hold. -/
def StoreCall.Admitted : StoreCall → Prop
  | create key v | update key v | createOrUpdate key v => key.Admitted ∧ v.Storable
  | read key => key.Admitted

/-- Both succeed, or both say that the key is taken, or both say that it is not. -/
inductive Concur : Except Stop Unit → Except Stop Unit → Prop where
  | done : Concur (.ok ()) (.ok ())
  | conflict (what what' : Taken) :
      Concur (.error (.failed (.conflict what))) (.error (.failed (.conflict what')))
  | notFound (what what' : Missing) :
      Concur (.error (.failed (.notFound what))) (.error (.failed (.notFound what')))

/-- Answers to one call that agree: reads find the same. -/
inductive StoreAnswer.Agree : StoreAnswer → StoreAnswer → Prop where
  | done {r r' : Except Stop Unit} (h : Concur r r') : Agree (.done r) (.done r')
  | found (o : Option WorkflowSummary) : Agree (.found (.ok o)) (.found (.ok o))

/-! ## What the service keeps for a table -/

structure Mirrors {σ : Type} (c : Client σ) (held : σ → String → Option Json) (s : σ)
    (t : SummaryTable) : Prop where
  kept : ∀ key : SummaryKey, key.Admitted →
    held s (summaryUrl c key) = (t.get? key).map WorkflowSummary.codec.toJson
  storable : ∀ key v, t.get? key = some v → v.Storable

namespace Mirrors

variable {σ : Type} {c : Client σ} {held : σ → String → Option Json} {s s' : σ}
  {t t' : SummaryTable} {key : SummaryKey} {v : WorkflowSummary}

theorem of_empty (h : ∀ url, held s url = none) : Mirrors c held s .empty where
  kept key _ := h _
  storable key v hv := by cases hv

theorem of_held_eq (h : Mirrors c held s t) (hs : held s' = held s) : Mirrors c held s' t where
  kept key hkey := by rw [hs, h.kept key hkey]
  storable := h.storable

/-- The same summary was written under one key on both sides. -/
theorem write (h : Mirrors c held s t) (hc : Connected c held) (hkey : key.Admitted)
    (hv : v.Storable)
    (hs : held s' =
      Function.update (held s) (summaryUrl c key) (some (WorkflowSummary.codec.toJson v)))
    (ht : ∀ other, t'.get? other = if other = key then some v else t.get? other) :
    Mirrors c held s' t' where
  kept other hother := by
    rw [hs, ht]
    by_cases heq : other = key
    · rw [heq, Function.update_self, if_pos rfl, Option.map_some]
    -- Another key has another URL, and what is kept there was not touched.
    · rw [Function.update_of_ne fun hurl => heq (summaryUrl_inj hc.root hother hkey hurl),
        if_neg heq, h.kept other hother]
  storable other w hw := by
    rw [ht] at hw
    split_ifs at hw
    · rw [← Option.some.inj hw]
      exact hv
    · exact h.storable other w hw

theorem create (h : Mirrors c held s t) (hc : Connected c held) (hkey : key.Admitted)
    (hv : v.Storable) :
    Concur (((Remote.summaryStore c).create key v).perform s).1
        ((SummaryTable.store.create key v).perform t).1 ∧
      Mirrors c held (((Remote.summaryStore c).create key v).perform s).2
        ((SummaryTable.store.create key v).perform t).2 := by
  have hkept := h.kept key hkey
  cases hget : t.get? key with
  | none =>
    rw [hget, Option.map_none] at hkept
    obtain ⟨hresult, hleft⟩ := hc.create_of_none (v := v) hkey hkept
    rw [hresult, SummaryTable.perform_create_of_none hget]
    exact ⟨.done, h.write hc hkey hv hleft fun other => SummaryTable.get?_create hget⟩
  | some old =>
    rw [hget, Option.map_some] at hkept
    obtain ⟨⟨what, hresult⟩, hleft⟩ := hc.create_of_some (v := v) hkey hkept
    rw [hresult, SummaryTable.perform_create_of_some hget]
    exact ⟨.conflict what _, h.of_held_eq hleft⟩

theorem update (h : Mirrors c held s t) (hc : Connected c held) (hkey : key.Admitted)
    (hv : v.Storable) :
    Concur (((Remote.summaryStore c).update key v).perform s).1
        ((SummaryTable.store.update key v).perform t).1 ∧
      Mirrors c held (((Remote.summaryStore c).update key v).perform s).2
        ((SummaryTable.store.update key v).perform t).2 := by
  have hkept := h.kept key hkey
  cases hget : t.get? key with
  | none =>
    rw [hget, Option.map_none] at hkept
    obtain ⟨⟨what, hresult⟩, hleft⟩ := hc.update_of_none (v := v) hkey hkept
    rw [hresult, SummaryTable.perform_update_of_none hget]
    exact ⟨.notFound what _, h.of_held_eq hleft⟩
  | some old =>
    rw [hget, Option.map_some] at hkept
    obtain ⟨hresult, hleft⟩ := hc.update_of_some (v := v) hkey hkept
    rw [hresult, SummaryTable.perform_update_of_some hget]
    exact ⟨.done, h.write hc hkey hv hleft fun other => SummaryTable.get?_update hget⟩

theorem read (h : Mirrors c held s t) (hc : Connected c held) (hkey : key.Admitted) :
    (((Remote.summaryStore c).read key).perform s).1 = .ok (t.get? key) ∧
      Mirrors c held (((Remote.summaryStore c).read key).perform s).2 t := by
  obtain ⟨hresult, hleft⟩ := hc.read_of_eq hkey (h.kept key hkey) (h.storable key)
  exact ⟨hresult, h.of_held_eq hleft⟩

/-- The second step is taken on both sides or on neither. -/
theorem createOrUpdate (h : Mirrors c held s t) (hc : Connected c held) (hkey : key.Admitted)
    (hv : v.Storable) :
    Concur (((Remote.summaryStore c).createOrUpdate key v).perform s).1
        ((SummaryTable.store.createOrUpdate key v).perform t).1 ∧
      Mirrors c held (((Remote.summaryStore c).createOrUpdate key v).perform s).2
        ((SummaryTable.store.createOrUpdate key v).perform t).2 := by
  have hcreate := h.create hc hkey hv
  rw [SummaryStore.createOrUpdate, SummaryStore.createOrUpdate, Call.perform_tryCatch,
    Call.perform_tryCatch]
  -- From here on only the agreement of the first steps counts, not how they came about.
  generalize ((Remote.summaryStore c).create key v).perform s = x at hcreate ⊢
  generalize (SummaryTable.store.create key v).perform t = y at hcreate ⊢
  obtain ⟨r, s₁⟩ := x
  obtain ⟨r', t₁⟩ := y
  obtain ⟨hconcur, hmirrors⟩ := hcreate
  cases hconcur with
  | done => exact ⟨.done, hmirrors⟩
  | conflict => exact hmirrors.update hc hkey hv
  | notFound what what' => exact ⟨.notFound what what', hmirrors⟩

/-- A call comes to the same on both sides, which then still match. -/
theorem call (h : Mirrors c held s t) (hc : Connected c held) {call : StoreCall}
    (hcall : call.Admitted) :
    (call.on (Remote.summaryStore c) s).1.Agree (call.on SummaryTable.store t).1 ∧
      Mirrors c held (call.on (Remote.summaryStore c) s).2 (call.on SummaryTable.store t).2 := by
  cases call with
  | create key v =>
    obtain ⟨hconcur, hmirrors⟩ := h.create hc hcall.1 hcall.2
    exact ⟨.done hconcur, hmirrors⟩
  | update key v =>
    obtain ⟨hconcur, hmirrors⟩ := h.update hc hcall.1 hcall.2
    exact ⟨.done hconcur, hmirrors⟩
  | createOrUpdate key v =>
    obtain ⟨hconcur, hmirrors⟩ := h.createOrUpdate hc hcall.1 hcall.2
    exact ⟨.done hconcur, hmirrors⟩
  | read key =>
    obtain ⟨hresult, hmirrors⟩ := h.read hc hcall
    refine ⟨?_, hmirrors⟩
    rw [StoreCall.on, StoreCall.on, SummaryTable.perform_read, hresult]
    exact .found _

theorem answers (h : Mirrors c held s t) (hc : Connected c held) {calls : List StoreCall}
    (hcalls : ∀ call ∈ calls, call.Admitted) :
    List.Forall₂ StoreAnswer.Agree ((Remote.summaryStore c).answers calls s)
      (SummaryTable.store.answers calls t) := by
  induction calls generalizing s t with
  | nil => exact .nil
  | cons call rest ih =>
    obtain ⟨hagree, hmirrors⟩ := h.call hc (hcalls call List.mem_cons_self)
    exact .cons hagree (ih hmirrors fun other hother =>
      hcalls other (List.mem_cons_of_mem _ hother))

end Mirrors

/-- A client over a service that keeps nothing yet and the empty store in memory answer every
sequence of calls alike, whatever the root of the client is. The keys are those that are let pass
and that a path keeps, and the summaries those that a text can hold. -/
theorem stores_agree {σ : Type} {c : Client σ} {held : σ → String → Option Json} {baseUrl : String}
    {tenant : Option Tenant} (hroot : Endpoint.root baseUrl tenant = .ok c.root) (hbare : c.Bare)
    (hlegal : c.LegalCredentials) (hserves : Serves c.transport held) {s : σ}
    (hempty : ∀ url, held s url = none) {calls : List StoreCall}
    (hcalls : ∀ call ∈ calls, call.Admitted) :
    List.Forall₂ StoreAnswer.Agree ((Remote.summaryStore c).answers calls s)
      (SummaryTable.store.answers calls .empty) := by
  have hconnected : Connected c held :=
    { hbare with
      root := Endpoint.anyRoot_of_root hroot
      legal := hlegal
      serves := hserves }
  exact (Mirrors.of_empty hempty).answers hconnected hcalls

/-- A summary is looked for, created, created again, and created or updated. -/
theorem stores_agree_shelf :
    let c : Client (String → Option Json) := { Client.scripted with transport := shelf }
    let key := WorkflowSummary.waiting.key
    let calls : List StoreCall := [.read key, .create key .waiting, .create key .waiting,
      .createOrUpdate key .waiting, .read key]
    Endpoint.root "https://[::1]" none = .ok c.root ∧ c.Bare ∧ c.LegalCredentials ∧
      Serves c.transport id ∧ (∀ call ∈ calls, call.Admitted) ∧
      List.Forall₂ StoreAnswer.Agree ((Remote.summaryStore c).answers calls fun _ => none)
        (SummaryTable.store.answers calls .empty) := by
  intro c key calls
  have hroot : Endpoint.root "https://[::1]" none = .ok c.root := by rfl
  have hbare : c.Bare := ⟨rfl, rfl⟩
  have hlegal : c.LegalCredentials := nofun
  have hkey : key.Admitted := by constructor <;> decide
  have hwrite := And.intro hkey WorkflowSummary.storable_waiting
  have hcalls : ∀ call ∈ calls, call.Admitted := by
    intro call hcall
    simp only [calls, List.mem_cons, List.not_mem_nil, or_false] at hcall
    rcases hcall with rfl | rfl | rfl | rfl | rfl
    · exact hkey
    · exact hwrite
    · exact hwrite
    · exact hwrite
    · exact hkey
  exact ⟨hroot, hbare, hlegal, serves_shelf, hcalls,
    stores_agree hroot hbare hlegal serves_shelf (fun _ => rfl) hcalls⟩

end PlatformLink.Workflow
