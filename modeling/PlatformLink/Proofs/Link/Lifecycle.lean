import PlatformLink.Proofs.Endpoint.Pipeline
import PlatformLink.Proofs.Link.Clones

/-!
# The life of a link

Between two accesses no lock is held, and whatever a link holds is built over the one client that
its configuration makes (`Settled`). The log says the same from outside (`Faithful`): what was
handed out is what the cells hold, and a failure is the failure of the configuration. Every access
keeps both, so they hold for all uses of all clones.
-/

namespace PlatformLink

open Endpoint (Call Client Registration)
open PlatformLink.Singleton (Instance LazyCell)
open PlatformLink.Singleton.LazyCell (Got)

variable {σ : Type}

/-! ## Cells -/

namespace LinkCells

/-- The state of the cells between two accesses. -/
structure Settled (config : LinkConfig σ) (cells : LinkCells σ) : Prop where
  rest_free : cells.rest.holder = none
  sub_free : ∀ s, (cells.get s).holder = none
  made : ∀ i, cells.rest.published = some i → config.client = .ok i.value
  shared : ∀ s i, (cells.get s).published = some i → cells.rest.published = some i.value

namespace Settled

variable {config : LinkConfig σ} {cells : LinkCells σ}

theorem empty (config : LinkConfig σ) : Settled config .empty where
  rest_free := rfl
  sub_free s := by rw [get_empty]; rfl
  made i hi := by cases hi
  shared s i hi := by
    rw [get_empty] at hi
    cases hi

theorem setRest (hs : Settled config cells) {r : Outcome (Instance (Client σ))}
    {rest : LazyCell Unit (Client σ)} (h : Got config.make cells.rest r rest) :
    Settled config (cells.setRest rest) where
  rest_free := h.holder_eq.trans hs.rest_free
  sub_free s := by
    rw [get_setRest]
    exact hs.sub_free s
  made i hi := by
    rcases h.make_of_published hi with hi | hmake
    · exact hs.made i hi
    · exact hmake
  shared s i hi := by
    rw [get_setRest] at hi
    exact h.published_of_published (hs.shared s i hi)

theorem set (hs : Settled config cells) (s : SubClient)
    {c : LazyCell Unit (Instance (Client σ))} (hfree : c.holder = none)
    (hshared : ∀ i, c.published = some i → cells.rest.published = some i.value) :
    Settled config (cells.set s c) where
  rest_free := by
    rw [rest_set]
    exact hs.rest_free
  sub_free t := by
    by_cases ht : t = s
    · rw [ht, get_set_self]
      exact hfree
    · rw [get_set_of_ne _ _ ht]
      exact hs.sub_free t
  made i hi := by
    rw [rest_set] at hi
    exact hs.made i hi
  shared t i hi := by
    rw [rest_set]
    by_cases ht : t = s
    · rw [ht, get_set_self] at hi
      exact hshared i hi
    · rw [get_set_of_ne _ _ ht] at hi
      exact hs.shared t i hi

/-- Every part holds the client that is published. -/
theorem rest_of_held (hs : Settled config cells) {p : Part} {h : Handed σ}
    (hp : cells.held? p = some h) : cells.rest.published = some h.clientInstance := by
  cases p with
  | client =>
    obtain ⟨i, hi, rfl⟩ := Option.map_eq_some_iff.mp hp
    exact hi
  | sub s =>
    obtain ⟨i, hi, rfl⟩ := Option.map_eq_some_iff.mp hp
    exact hs.shared s i hi

theorem client_of_held (hs : Settled config cells) {p : Part} {h : Handed σ}
    (hp : cells.held? p = some h) : config.client = .ok h.clientInstance.value :=
  hs.made _ (hs.rest_of_held hp)

end Settled

theorem held?_setRest {config : LinkConfig σ} {cells : LinkCells σ}
    {r : Outcome (Instance (Client σ))} {rest : LazyCell Unit (Client σ)}
    (hrest : Got config.make cells.rest r rest) {p : Part} {h : Handed σ}
    (hp : cells.held? p = some h) : (cells.setRest rest).held? p = some h := by
  cases p with
  | client =>
    obtain ⟨i, hi, rfl⟩ := Option.map_eq_some_iff.mp hp
    rw [held?, rest_setRest, hrest.published_of_published hi, Option.map_some]
  | sub s => rwa [held?, get_setRest]

/-- A cell that held nothing may be replaced. -/
theorem held?_set {cells : LinkCells σ} {s : SubClient} (hs : (cells.get s).published = none)
    (c : LazyCell Unit (Instance (Client σ))) {p : Part} {h : Handed σ}
    (hp : cells.held? p = some h) : (cells.set s c).held? p = some h := by
  cases p with
  | client => rwa [held?, rest_set]
  | sub t =>
    by_cases ht : t = s
    · rw [ht, held?, hs] at hp
      cases hp
    · rwa [held?, get_set_of_ne _ _ ht]

end LinkCells

/-! ## Accesses -/

namespace Hands

variable {config : LinkConfig σ} {cells cells' : LinkCells σ} {p : Part}
  {r : Outcome (Handed σ)}

theorem settled (h : Hands config cells p r cells') (hs : cells.Settled config) :
    cells'.Settled config := by
  cases h with
  | client hrest
  | clientFailed hrest => exact hs.setRest hrest
  | found h => exact hs
  | @built s i rest h hrest =>
    refine (hs.setRest hrest).set s (hs.sub_free s) ?_
    intro j hj
    rw [← Option.some.inj hj]
    exact hrest.published_of_ok
  | @failed s e rest h hrest =>
    refine (hs.setRest hrest).set s (hs.sub_free s) ?_
    intro j hj
    cases hj

/-- What is handed out is what the cell holds. -/
theorem held_of_ok {h : Handed σ} (hands : Hands config cells p (.ok h) cells') :
    cells'.held? p = some h := by
  cases hands with
  | client hrest =>
    rw [LinkCells.held?, LinkCells.rest_setRest, hrest.published_of_ok, Option.map_some]
  | found h => rw [LinkCells.held?, h, Option.map_some]
  | built h hrest => rw [LinkCells.held?, LinkCells.get_set_self, Option.map_some]

/-- What a cell holds it keeps. -/
theorem held_of_held (hands : Hands config cells p r cells') {q : Part} {h : Handed σ}
    (hq : cells.held? q = some h) : cells'.held? q = some h := by
  cases hands with
  | client hrest
  | clientFailed hrest => exact LinkCells.held?_setRest hrest hq
  | found h => exact hq
  | built h hrest
  | failed h hrest =>
    refine LinkCells.held?_set ?_ _ (LinkCells.held?_setRest hrest hq)
    rwa [LinkCells.get_setRest]

/-- An access fails only as the configuration does, and then there is still no client. -/
theorem client_of_error {e : LinkError} (hands : Hands config cells p (.error e) cells') :
    config.client = .error e ∧ cells'.isConnected = false := by
  cases hands with
  | clientFailed hrest =>
    refine ⟨hrest.make_of_error, ?_⟩
    rw [LinkCells.isConnected, LinkCells.rest_setRest, LazyCell.isInitialized,
      hrest.published_of_error, Option.isSome_none]
  | failed h hrest =>
    refine ⟨hrest.make_of_error, ?_⟩
    rw [LinkCells.isConnected, LinkCells.rest_set, LinkCells.rest_setRest, LazyCell.isInitialized,
      hrest.published_of_error, Option.isSome_none]

/-- What an access gives is what the configuration makes: its client, or its failure. -/
theorem client_eq (hands : Hands config cells p r cells') (hs : cells.Settled config) :
    config.client = r.map fun h => h.clientInstance.value := by
  cases r with
  | ok h => exact (hands.settled hs).client_of_held hands.held_of_ok
  | error e => exact hands.client_of_error.1

theorem runs_of_ok {h : Handed σ} (hands : Hands config cells p (.ok h) cells') :
    cells'.rest.runs + cells.isConnected.toNat =
      cells.rest.runs + cells'.isConnected.toNat := by
  cases hands with
  | client hrest => exact hrest.runs_of_ok
  | found h => rfl
  | built h hrest =>
    rw [LinkCells.isConnected, LinkCells.isConnected, LinkCells.rest_set, LinkCells.rest_setRest]
    exact hrest.runs_of_ok

theorem runs_of_error {e : LinkError} (hands : Hands config cells p (.error e) cells') :
    cells'.rest.runs + cells.isConnected.toNat =
      cells.rest.runs + cells'.isConnected.toNat + 1 := by
  cases hands with
  | clientFailed hrest => exact hrest.runs_of_error
  | failed h hrest =>
    rw [LinkCells.isConnected, LinkCells.isConnected, LinkCells.rest_set, LinkCells.rest_setRest]
    exact hrest.runs_of_error

end Hands

/-! ## Logs -/

namespace LinkEvent

def isSuccess : LinkEvent σ → Bool
  | accessed _ _ (.ok _) => true
  | _ => false

def isFailure : LinkEvent σ → Bool
  | accessed _ _ (.error _) => true
  | _ => false

/-- Every question about the connection was answered with whether an access had succeeded before. -/
def Honest (log : List (LinkEvent σ)) : Prop :=
  ∀ k who answer, log[k]? = some (connected who answer) →
    (answer = true ↔ ∃ e ∈ log.take k, e.isSuccess = true)

theorem honest_append {log : List (LinkEvent σ)} (h : Honest log) {e : LinkEvent σ}
    (he : ∀ who answer, e = connected who answer →
      (answer = true ↔ ∃ e ∈ log, e.isSuccess = true)) : Honest (log ++ [e]) := by
  intro k who answer hk
  rcases lt_trichotomy k log.length with hlt | rfl | hgt
  · rw [List.getElem?_append_left hlt] at hk
    rw [List.take_append_of_le_length hlt.le]
    exact h k who answer hk
  · rw [List.getElem?_concat_length] at hk
    rw [List.take_left']
    · exact he who answer (Option.some.inj hk)
    · rfl
  · have hlength : (log ++ [e]).length ≤ k := by
      rw [List.length_append, List.length_singleton]
      exact hgt
    rw [List.getElem?_eq_none hlength] at hk
    cases hk

end LinkEvent

open LinkEvent (Honest)

namespace Clones

/-- The log and the cells tell the same. -/
structure Faithful (config : LinkConfig σ) (s : Clones σ) : Prop where
  config_eq : s.link.config = config
  settled : s.link.cells.Settled config
  held : ∀ who p h, .accessed who p (.ok h) ∈ s.log → s.link.cells.held? p = some h
  failed : ∀ who p e, .accessed who p (.error e) ∈ s.log → config.client = .error e
  connected : s.link.cells.isConnected = true → ∃ e ∈ s.log, e.isSuccess = true
  honest : Honest s.log
  runs : s.link.cells.rest.runs =
    s.log.countP LinkEvent.isFailure + s.link.cells.isConnected.toNat

namespace Faithful

variable {config : LinkConfig σ} {s : Clones σ}

theorem connected_iff (hs : Faithful config s) :
    s.link.cells.isConnected = true ↔ ∃ e ∈ s.log, e.isSuccess = true := by
  refine ⟨hs.connected, ?_⟩
  rintro ⟨e, he, hsuccess⟩
  obtain ⟨who, p, e | h⟩ | ⟨who, answer⟩ := e
  · cases hsuccess
  · have hrest := hs.settled.rest_of_held (hs.held who p h he)
    rw [LinkCells.isConnected, LazyCell.isInitialized, hrest, Option.isSome_some]
  · cases hsuccess

theorem new (config : LinkConfig σ) : Faithful config (new config) where
  config_eq := rfl
  settled := .empty config
  held _ _ _ h := absurd h List.not_mem_nil
  failed _ _ _ h := absurd h List.not_mem_nil
  connected h := by cases h
  honest k who answer h := by cases h
  runs := rfl

theorem asked (hs : Faithful config s) (who : Nat) :
    Faithful config ⟨s.link, s.count, s.log ++ [.connected who s.link.cells.isConnected]⟩ where
  config_eq := hs.config_eq
  settled := hs.settled
  held other p h hmem := by
    rcases List.mem_append.mp hmem with hmem | hmem
    · exact hs.held other p h hmem
    · cases List.mem_singleton.mp hmem
  failed other p e hmem := by
    rcases List.mem_append.mp hmem with hmem | hmem
    · exact hs.failed other p e hmem
    · cases List.mem_singleton.mp hmem
  connected hc := by
    obtain ⟨e, he, hsuccess⟩ := hs.connected hc
    exact ⟨e, List.mem_append_left _ he, hsuccess⟩
  honest := by
    refine LinkEvent.honest_append hs.honest ?_
    intro other answer h
    cases h
    exact hs.connected_iff
  runs := by
    rw [List.countP_append]
    exact hs.runs

theorem accessed (hs : Faithful config s) {l : Link σ} (hl : l.config = config) {p : Part}
    {r : Outcome (Handed σ)} (hands : Hands config s.link.cells p r l.cells) (who : Nat) :
    Faithful config ⟨l, s.count, s.log ++ [.accessed who p r]⟩ where
  config_eq := hl
  settled := hands.settled hs.settled
  held other q h hmem := by
    rcases List.mem_append.mp hmem with hmem | hmem
    · exact hands.held_of_held (hs.held other q h hmem)
    · cases List.mem_singleton.mp hmem
      exact hands.held_of_ok
  failed other q e hmem := by
    rcases List.mem_append.mp hmem with hmem | hmem
    · exact hs.failed other q e hmem
    · cases List.mem_singleton.mp hmem
      exact hands.client_of_error.1
  connected hc := by
    cases r with
    | ok h => exact ⟨_, List.mem_append_right _ (List.mem_singleton_self _), rfl⟩
    | error e =>
      rw [hands.client_of_error.2] at hc
      cases hc
  honest := by
    refine LinkEvent.honest_append hs.honest ?_
    intro other answer h
    cases h
  runs := by
    have hruns := hs.runs
    rw [List.countP_append]
    cases r with
    | ok h =>
      have hmore := hands.runs_of_ok
      have hcount : [LinkEvent.accessed who p (.ok h)].countP LinkEvent.isFailure = 0 := rfl
      dsimp only at hmore ⊢
      omega
    | error e =>
      have hmore := hands.runs_of_error
      have hcount : [(LinkEvent.accessed who p (.error e) : LinkEvent σ)].countP
        LinkEvent.isFailure = 1 := rfl
      dsimp only at hmore ⊢
      omega

theorem serve (hs : Faithful config s) (u : Use) : Faithful config (s.serve u) := by
  cases u with
  | clone who =>
    exact ⟨hs.config_eq, hs.settled, hs.held, hs.failed, hs.connected, hs.honest, hs.runs⟩
  | access who p =>
    have hl : (s.link.hand p).2.config = config := (s.link.config_hand p).trans hs.config_eq
    have hands := s.link.hands_hand p
    rw [hs.config_eq] at hands
    exact hs.accessed hl hands who
  | isConnected who => exact hs.asked who

theorem ofUses (config : LinkConfig σ) (uses : List Use) :
    Faithful config (ofUses config uses) :=
  ofUses_induction (new config) (fun _ u hs => hs.serve u) uses

end Faithful

end Clones

/-! ## Configurations -/

namespace LinkConfig

def register (c : LinkConfig σ) : Registration → LinkConfig σ
  | .request f => c.addRequestMiddleware f
  | .response f => c.addResponseMiddleware f

theorem requestMiddleware_register (c : LinkConfig σ) (f : Registration) :
    (c.register f).requestMiddleware = c.requestMiddleware ++ f.request?.toList := by
  cases f with
  | request f => rfl
  | response f => exact (List.append_nil _).symm

theorem responseMiddleware_register (c : LinkConfig σ) (f : Registration) :
    (c.register f).responseMiddleware = c.responseMiddleware ++ f.response?.toList := by
  cases f with
  | request f => exact (List.append_nil _).symm
  | response f => rfl

/-- A client with the middleware of the configuration. -/
def equip (config : LinkConfig σ) (base : Client σ) : Client σ :=
  { base with
    requestMiddleware := config.requestMiddleware
    responseMiddleware := config.responseMiddleware }

theorem client_eq_ok_iff {config : LinkConfig σ} {c : Client σ} :
    config.client = .ok c ↔ ∃ t base, config.transport = .ok t ∧
      Client.new config.settings.baseUrl config.settings.tenant config.settings.credentials t =
        .ok base ∧ c = config.equip base := by
  constructor
  · intro h
    obtain ⟨t, ht, h⟩ := bind_eq_ok_iff.mp h
    obtain ⟨base, hbase, h⟩ := bind_eq_ok_iff.mp h
    exact ⟨t, base, ht, hbase, (Except.ok.inj h).symm⟩
  · rintro ⟨t, base, ht, hbase, rfl⟩
    rw [client, ht, ok_bind, hbase]
    rfl

theorem exists_transport {config : LinkConfig σ}
    (h : config.supplied ≠ none ∨ config.settings.transport.check = .ok ()) :
    ∃ t, config.transport = .ok t := by
  unfold transport
  cases hs : config.supplied with
  | some t => exact ⟨t, rfl⟩
  | none =>
    rcases h with h | h
    · exact absurd hs h
    · exact ⟨config.network, by rw [h]; rfl⟩

/-- Where there is a transport, a base URL that has a root is all that it takes. -/
theorem exists_client_of_root {config : LinkConfig σ} {root : Web.Url}
    (h : config.supplied ≠ none ∨ config.settings.transport.check = .ok ())
    (hroot : Endpoint.root config.settings.baseUrl config.settings.tenant = .ok root) :
    ∃ t, config.transport = .ok t ∧
      Client.new config.settings.baseUrl config.settings.tenant config.settings.credentials t =
        .ok ⟨root, config.settings.tenant, config.settings.credentials, t, [], []⟩ := by
  obtain ⟨t, ht⟩ := exists_transport h
  refine ⟨t, ht, ?_⟩
  rw [Client.new, hroot]
  rfl

/-- Where there is a transport, a base URL that has no root is what is wrong. -/
theorem client_of_rejected {config : LinkConfig σ} {e : LinkError}
    (h : config.supplied ≠ none ∨ config.settings.transport.check = .ok ())
    (hroot : Endpoint.root config.settings.baseUrl config.settings.tenant = .error e) :
    config.client = .error e := by
  obtain ⟨t, ht⟩ := exists_transport h
  rw [client, ht, ok_bind, Client.new, hroot]
  rfl

end LinkConfig

theorem Endpoint.configuration_of_root_error {baseUrl : String} {tenant : Option Tenant}
    {e : LinkError} (h : Endpoint.root baseUrl tenant = .error e) :
    ∃ fault, e = .configuration fault := by
  unfold Endpoint.root at h
  cases hparse : Web.Url.parse (Text.trim baseUrl) with
  | error fault =>
    rw [hparse, error_mapError, error_bind] at h
    exact ⟨_, (Except.error.inj h).symm⟩
  | ok base =>
    rw [hparse, ok_mapError, ok_bind] at h
    split at h
    next => cases h
    next => exact ⟨_, (Except.error.inj h).symm⟩

/-! ## Lifecycles -/

/-- Clones of a link after any uses. An access through a clone is an event `accessed`, with the part
that was asked for and the instance or the error that came. -/
structure Lifecycle (config : LinkConfig σ) (s : Clones σ) : Prop where
  /-- The accessors of the link hand out its parts. -/
  rest_hands : s.link.rest =
    ((s.link.hand .client).1.map fun h => h.clientInstance.value, (s.link.hand .client).2)
  access_hands : ∀ sub, s.link.access sub =
    ((s.link.hand (.sub sub)).1.map fun h => h.clientInstance.value, (s.link.hand (.sub sub)).2)
  /-- No lock is held, so that a call goes through the steps of `LazyCell.get`
  (`LazyCell.get_factoryOf`). -/
  free : s.link.cells.rest.holder = none ∧ ∀ sub, (s.link.cells.get sub).holder = none
  /-- Whatever a cell holds has the client of the link, and that is what the link hands out. -/
  shared : ∀ p h, s.link.cells.held? p = some h →
    s.link.cells.rest.published = some h.clientInstance ∧
      s.link.hand .client = (.ok (.client h.clientInstance), s.link)
  connected_iff : s.link.cells.isConnected = true ↔ ∃ e ∈ s.log, e.isSuccess = true
  /-- The same for each time that it was asked. -/
  honest : Honest s.log
  one_instance : ∀ who who' p h h', .accessed who p (.ok h) ∈ s.log →
    .accessed who' p (.ok h') ∈ s.log → h = h'
  one_client : ∀ who who' p p' h h', .accessed who p (.ok h) ∈ s.log →
    .accessed who' p' (.ok h') ∈ s.log → h.clientInstance = h'.clientInstance
  /-- The client is the one that is made of the settings, with the middleware of the
  configuration. -/
  client : ∀ who p h, .accessed who p (.ok h) ∈ s.log →
    ∃ t base, config.transport = .ok t ∧
      Client.new config.settings.baseUrl config.settings.tenant config.settings.credentials t =
        .ok base ∧
      h.clientInstance.value = { base with
        requestMiddleware := config.requestMiddleware
        responseMiddleware := config.responseMiddleware }
  /-- Where there is a transport and a client can be made over it, this client, with the middleware
  of the configuration, was handed out by every access, and the next access hands it out. -/
  succeeds : ∀ t base, config.transport = .ok t →
    Client.new config.settings.baseUrl config.settings.tenant config.settings.credentials t =
      .ok base →
    (∀ who p r, .accessed who p r ∈ s.log →
      ∃ h, r = .ok h ∧ h.clientInstance.value = config.equip base) ∧
    ∀ p, ∃ h, (s.link.hand p).1 = .ok h ∧ h.clientInstance.value = config.equip base
  /-- A client can be made wherever the base URL has a root. -/
  accepted : config.supplied ≠ none ∨ config.settings.transport.check = .ok () →
    ∀ root, Endpoint.root config.settings.baseUrl config.settings.tenant = .ok root →
      ∃ t, config.transport = .ok t ∧
        Client.new config.settings.baseUrl config.settings.tenant config.settings.credentials t =
          .ok ⟨root, config.settings.tenant, config.settings.credentials, t, [], []⟩
  /-- Otherwise every access fails alike, and nothing is held. -/
  fails : ∀ e, config.client = .error e →
    (∀ who p r, .accessed who p r ∈ s.log → r = .error e) ∧ ∀ p, s.link.cells.held? p = none
  rejected : config.supplied ≠ none ∨ config.settings.transport.check = .ok () →
    ∀ e, Endpoint.root config.settings.baseUrl config.settings.tenant = .error e →
      (∃ fault, e = .configuration fault) ∧
      (∀ who p r, .accessed who p r ∈ s.log → r = .error e) ∧ ∀ p, s.link.cells.held? p = none
  /-- The client is tried again after each failure, and made once. -/
  runs : s.link.cells.rest.runs =
    s.log.countP LinkEvent.isFailure + s.link.cells.isConnected.toNat
  /-- The order of the middleware of a configuration is the order of its registration. -/
  request_registered : ∀ registrations : List Registration,
    (registrations.foldl LinkConfig.register config).requestMiddleware =
      config.requestMiddleware ++ registrations.filterMap Registration.request?
  response_registered : ∀ registrations : List Registration,
    (registrations.foldl LinkConfig.register config).responseMiddleware =
      config.responseMiddleware ++ registrations.filterMap Registration.response?

namespace Clones

namespace Faithful

variable {config : LinkConfig σ} {s : Clones σ}

theorem hand_of_held (hs : Faithful config s) {p : Part} {h : Handed σ}
    (hp : s.link.cells.held? p = some h) :
    s.link.hand .client = (.ok (.client h.clientInstance), s.link) := by
  rw [Link.hand, Link.restInstance,
    LazyCell.getAlone_of_published _ (hs.settled.rest_of_held hp)]
  rfl

theorem client_eq (hs : Faithful config s) {who : Nat} {p : Part} {r : Outcome (Handed σ)}
    (hr : .accessed who p r ∈ s.log) :
    config.client = r.map fun h => h.clientInstance.value := by
  cases r with
  | ok h => exact hs.settled.client_of_held (hs.held who p h hr)
  | error e => exact hs.failed who p e hr

/-- Where the configuration makes a client, every access was handed it, and so is the next one. -/
theorem succeeds (hs : Faithful config s) {c : Client σ} (hc : config.client = .ok c) :
    (∀ who p r, .accessed who p r ∈ s.log → ∃ h, r = .ok h ∧ h.clientInstance.value = c) ∧
      ∀ p, ∃ h, (s.link.hand p).1 = .ok h ∧ h.clientInstance.value = c := by
  constructor
  · intro who p r hr
    exact map_eq_ok_iff.mp ((hs.client_eq hr).symm.trans hc)
  · intro p
    have hands := s.link.hands_hand p
    rw [hs.config_eq] at hands
    exact map_eq_ok_iff.mp ((hands.client_eq hs.settled).symm.trans hc)

/-- Where the configuration makes no client, nothing succeeds and nothing is held. -/
theorem fails (hs : Faithful config s) {e : LinkError} (he : config.client = .error e) :
    (∀ who p r, .accessed who p r ∈ s.log → r = .error e) ∧
      ∀ p, s.link.cells.held? p = none := by
  constructor
  · intro who p r hr
    exact map_eq_error_iff.mp ((hs.client_eq hr).symm.trans he)
  · intro p
    rw [Option.eq_none_iff_forall_not_mem]
    intro h hp
    have hclient := hs.settled.client_of_held hp
    rw [he] at hclient
    cases hclient

end Faithful

theorem lifecycle (config : LinkConfig σ) (uses : List Use) :
    Lifecycle config (ofUses config uses) := by
  have hs := Faithful.ofUses config uses
  constructor
  case rest_hands => exact Link.rest_eq_hand _
  case access_hands => exact Link.access_eq_hand _
  case free => exact ⟨hs.settled.rest_free, hs.settled.sub_free⟩
  case shared =>
    intro p h hp
    exact ⟨hs.settled.rest_of_held hp, hs.hand_of_held hp⟩
  case connected_iff => exact hs.connected_iff
  case honest => exact hs.honest
  case one_instance =>
    intro who who' p h h' hmem hmem'
    have hp := hs.held who p h hmem
    rw [hs.held who' p h' hmem'] at hp
    exact (Option.some.inj hp).symm
  case one_client =>
    intro who who' p p' h h' hmem hmem'
    have hrest := hs.settled.rest_of_held (hs.held who p h hmem)
    rw [hs.settled.rest_of_held (hs.held who' p' h' hmem')] at hrest
    exact (Option.some.inj hrest).symm
  case client =>
    intro who p h hmem
    exact LinkConfig.client_eq_ok_iff.mp (hs.settled.client_of_held (hs.held who p h hmem))
  case succeeds =>
    intro t base ht hbase
    exact hs.succeeds (LinkConfig.client_eq_ok_iff.mpr ⟨t, base, ht, hbase, rfl⟩)
  case accepted =>
    intro htransport root hroot
    exact LinkConfig.exists_client_of_root htransport hroot
  case fails =>
    intro e he
    exact hs.fails he
  case rejected =>
    intro htransport e hroot
    exact ⟨Endpoint.configuration_of_root_error hroot,
      hs.fails (LinkConfig.client_of_rejected htransport hroot)⟩
  case runs => exact hs.runs
  case request_registered =>
    exact Endpoint.foldl_eq_append_filterMap LinkConfig.requestMiddleware_register config
  case response_registered =>
    exact Endpoint.foldl_eq_append_filterMap LinkConfig.responseMiddleware_register config

end Clones

end PlatformLink
