import PlatformLink.Link
import PlatformLink.Proofs.Endpoint.Isolation
import PlatformLink.Proofs.Text.Whole

/-!
# Settings that are looked up

What the base URL, the tenant and the timeout of a link must be set to, said for each of them by
itself. Settings are read exactly when all three checks hold, and the error is that of the first one
that fails. A tenant that is set by half or not accepted is refused; so settings without a tenant
come from look-ups without one.
-/

namespace PlatformLink

open Text (WritesWhole)

/-- A tenant that is made has the names that were given. -/
theorem Tenant.accepted_of_new {organization environment : String} {t : Tenant}
    (h : Tenant.new organization environment = .ok t) :
    Tenant.Accepted ⟨organization, environment⟩ := by
  obtain ⟨o, ho, hrest⟩ := bind_eq_ok_iff.mp h
  obtain ⟨e, he, -⟩ := bind_eq_ok_iff.mp hrest
  exact (accepted_iff _).mpr
    ⟨((readSegment_eq_ok_iff _ _ _).mp ho).1, ((readSegment_eq_ok_iff _ _ _).mp he).1⟩

namespace LinkSettings

/-! ## The checks -/

/-- The base URL is set to something that is not blank. -/
def BaseUrlSet (baseUrl : Option String) : Prop :=
  ∃ s, baseUrl = some s ∧ Text.isBlank s = false

/-- Organization and environment are both unset, or both set and accepted. -/
def TenantSet (organization environment : Option String) : Prop :=
  organization = none ∧ environment = none ∨
    ∃ t : Tenant, organization = some t.organization ∧ environment = some t.environment ∧ t.Accepted

/-- The timeout is unset, or a number of seconds that fits 64 bits, with blanks around it or not. -/
def TimeoutSet (timeout : Option String) : Prop :=
  ∀ s, timeout = some s → ∃ n, WritesWhole (Text.trim s).toList n ∧ n < UInt64.size

/-- The errors of a tenant that is not set as it should be. -/
inductive TenantFault (organization environment : Option String) : LinkError → Prop where
  | half (h : organization.isSome ≠ environment.isSome) :
      TenantFault organization environment
        (.configuration (.setTogether organizationSetting environmentSetting))
  | refused {o e : String} {err : LinkError} (ho : organization = some o)
      (he : environment = some e) (h : Tenant.new o e = .error err) :
      TenantFault organization environment err

/-- Why a look-up gives no settings: the first check that fails, with its error. -/
inductive Refused (lookup : String → Option String) : LinkError → Prop where
  | baseUrl (h : ¬BaseUrlSet (lookup baseUrlSetting)) :
      Refused lookup (.configuration (.unset baseUrlSetting))
  | tenant {err : LinkError} (hbase : BaseUrlSet (lookup baseUrlSetting))
      (h : TenantFault (lookup organizationSetting) (lookup environmentSetting) err) :
      Refused lookup err
  | timeout (hbase : BaseUrlSet (lookup baseUrlSetting))
      (htenant : TenantSet (lookup organizationSetting) (lookup environmentSetting))
      (h : ¬TimeoutSet (lookup timeoutSetting)) :
      Refused lookup (.configuration (.notSeconds timeoutSetting))

/-- Settings that say what was looked up. -/
structure Tells (lookup : String → Option String) (s : LinkSettings) : Prop where
  baseUrl : lookup baseUrlSetting = some s.baseUrl
  organization : lookup organizationSetting = s.tenant.map (·.organization)
  environment : lookup environmentSetting = s.tenant.map (·.environment)
  credentials : ∀ token, s.credentials = some ⟨token⟩ ↔
    lookup tokenSetting = some token ∧ token ≠ ""
  timeout : lookup timeoutSetting = none ∧
      s.transport.timeout = TransportSettings.standard.timeout ∨
    ∃ text n, lookup timeoutSetting = some text ∧ WritesWhole (Text.trim text).toList n ∧
      n < UInt64.size ∧ s.transport.timeout = .ofSeconds n
  transport : s.transport = { TransportSettings.standard with timeout := s.transport.timeout }

/-! ## One setting after the other -/

variable {baseUrl organization environment token timeout : Option String}

theorem exists_readBaseUrl (h : BaseUrlSet baseUrl) :
    ∃ s, readBaseUrl baseUrl = .ok s ∧ baseUrl = some s := by
  obtain ⟨s, rfl, hs⟩ := h
  exact ⟨s, if_neg (by simp [hs]), rfl⟩

theorem readBaseUrl_of_not_set (h : ¬BaseUrlSet baseUrl) :
    readBaseUrl baseUrl = .error (.configuration (.unset baseUrlSetting)) := by
  cases baseUrl with
  | none => rfl
  | some s => exact if_pos (Bool.not_eq_false _ ▸ fun hs => h ⟨s, rfl, hs⟩)

theorem exists_readTenant (h : TenantSet organization environment) :
    ∃ tenant, readTenant organization environment = .ok tenant ∧
      organization = tenant.map (·.organization) ∧ environment = tenant.map (·.environment) := by
  rcases h with ⟨rfl, rfl⟩ | ⟨t, rfl, rfl, ht⟩
  · exact ⟨none, rfl, rfl, rfl⟩
  · refine ⟨some t, ?_, rfl, rfl⟩
    rw [readTenant, ht]
    rfl

theorem exists_tenantFault (h : ¬TenantSet organization environment) :
    ∃ err, TenantFault organization environment err := by
  cases organization with
  | none =>
    cases environment with
    | none => exact absurd (Or.inl ⟨rfl, rfl⟩) h
    | some e => exact ⟨_, .half (by simp)⟩
  | some o =>
    cases environment with
    | none => exact ⟨_, .half (by simp)⟩
    | some e =>
      cases hnew : Tenant.new o e with
      | error err => exact ⟨err, .refused rfl rfl hnew⟩
      | ok t => exact absurd (Or.inr ⟨⟨o, e⟩, rfl, rfl, Tenant.accepted_of_new hnew⟩) h

theorem TenantFault.readTenant_eq {err : LinkError} (h : TenantFault organization environment err) :
    readTenant organization environment = .error err := by
  cases h with
  | half h =>
    cases organization with
    | none =>
      cases environment with
      | none => exact absurd rfl h
      | some e => rfl
    | some o =>
      cases environment with
      | none => rfl
      | some e => exact absurd rfl h
  | refused ho he h =>
    rw [ho, he, readTenant, h]
    rfl

theorem readCredentials_eq_some_iff (t : String) :
    readCredentials token = some ⟨t⟩ ↔ token = some t ∧ t ≠ "" := by
  cases token with
  | none => simp [readCredentials]
  | some s =>
    have hread : readCredentials (some s) = if s.isEmpty then none else some ⟨s⟩ := rfl
    rw [hread, Option.some.injEq]
    split
    next hempty =>
      rw [String.isEmpty_iff] at hempty
      simp [hempty, eq_comm]
    next hempty =>
      rw [String.isEmpty_iff] at hempty
      rw [Option.some.injEq, Credentials.mk.injEq]
      refine ⟨?_, And.left⟩
      rintro rfl
      exact ⟨rfl, hempty⟩

theorem exists_readTimeout (h : TimeoutSet timeout) :
    ∃ d, readTimeout timeout = .ok d ∧
      (timeout = none ∧ d = TransportSettings.standard.timeout ∨
        ∃ text n, timeout = some text ∧ WritesWhole (Text.trim text).toList n ∧ n < UInt64.size ∧
          d = .ofSeconds n) := by
  cases timeout with
  | none => exact ⟨_, rfl, Or.inl ⟨rfl, rfl⟩⟩
  | some text =>
    obtain ⟨n, hn, hfits⟩ := h text rfl
    have hread : Text.uint64? (Text.trim text) = some (UInt64.ofNat n) := by
      rwa [Text.uint64?_eq_some_iff, UInt64.toNat_ofNat_of_lt' hfits]
    refine ⟨.ofSeconds n, ?_, Or.inr ⟨text, n, rfl, hn, hfits, rfl⟩⟩
    simp only [readTimeout, hread, UInt64.toNat_ofNat_of_lt' hfits]

theorem readTimeout_of_not_set (h : ¬TimeoutSet timeout) :
    readTimeout timeout = .error (.configuration (.notSeconds timeoutSetting)) := by
  cases timeout with
  | none => exact absurd (fun s hs => by cases hs) h
  | some text =>
    have hnone : Text.uint64? (Text.trim text) = none := by
      refine (Text.uint64?_eq_none_iff _).mpr fun n hn => Nat.le_of_not_lt fun hfits => h ?_
      rintro s ⟨⟩
      exact ⟨n, hn, hfits⟩
    simp only [readTimeout, hnone]

/-! ## All of them -/

variable {lookup : String → Option String}

theorem ofLookup_of_no_baseUrl (h : ¬BaseUrlSet (lookup baseUrlSetting)) :
    ofLookup lookup = .error (.configuration (.unset baseUrlSetting)) := by
  rw [ofLookup, readBaseUrl_of_not_set h, error_bind]

theorem ofLookup_of_tenantFault (hbase : BaseUrlSet (lookup baseUrlSetting)) {err : LinkError}
    (h : TenantFault (lookup organizationSetting) (lookup environmentSetting) err) :
    ofLookup lookup = .error err := by
  obtain ⟨baseUrl, hread, -⟩ := exists_readBaseUrl hbase
  rw [ofLookup, hread, ok_bind, h.readTenant_eq, error_bind]

theorem ofLookup_of_no_timeout (hbase : BaseUrlSet (lookup baseUrlSetting))
    (htenant : TenantSet (lookup organizationSetting) (lookup environmentSetting))
    (h : ¬TimeoutSet (lookup timeoutSetting)) :
    ofLookup lookup = .error (.configuration (.notSeconds timeoutSetting)) := by
  obtain ⟨baseUrl, hread, -⟩ := exists_readBaseUrl hbase
  obtain ⟨tenant, hreadTenant, -⟩ := exists_readTenant htenant
  rw [ofLookup, hread, ok_bind, hreadTenant, ok_bind, readTimeout_of_not_set h, error_bind]

theorem exists_tells (hbase : BaseUrlSet (lookup baseUrlSetting))
    (htenant : TenantSet (lookup organizationSetting) (lookup environmentSetting))
    (htimeout : TimeoutSet (lookup timeoutSetting)) :
    ∃ s, ofLookup lookup = .ok s ∧ Tells lookup s := by
  obtain ⟨baseUrl, hread, hbaseUrl⟩ := exists_readBaseUrl hbase
  obtain ⟨tenant, hreadTenant, horganization, henvironment⟩ := exists_readTenant htenant
  obtain ⟨timeout, hreadTimeout, htold⟩ := exists_readTimeout htimeout
  refine ⟨⟨baseUrl, tenant, readCredentials (lookup tokenSetting),
    { TransportSettings.standard with timeout := timeout }⟩, ?_, ?_⟩
  · rw [ofLookup, hread, ok_bind, hreadTenant, ok_bind, hreadTimeout, ok_bind]
    rfl
  · exact ⟨hbaseUrl, horganization, henvironment, readCredentials_eq_some_iff, htold, rfl⟩

theorem ofLookup_of_refused {err : LinkError} (h : Refused lookup err) :
    ofLookup lookup = .error err := by
  cases h with
  | baseUrl h => exact ofLookup_of_no_baseUrl h
  | tenant hbase h => exact ofLookup_of_tenantFault hbase h
  | timeout hbase htenant h => exact ofLookup_of_no_timeout hbase htenant h

/-- Either all checks hold, or one of them is the first that fails. -/
theorem checked_or_refused (lookup : String → Option String) :
    (BaseUrlSet (lookup baseUrlSetting) ∧
        TenantSet (lookup organizationSetting) (lookup environmentSetting) ∧
        TimeoutSet (lookup timeoutSetting)) ∨
      ∃ err, Refused lookup err := by
  by_cases hbase : BaseUrlSet (lookup baseUrlSetting)
  · by_cases htenant : TenantSet (lookup organizationSetting) (lookup environmentSetting)
    · by_cases htimeout : TimeoutSet (lookup timeoutSetting)
      · exact Or.inl ⟨hbase, htenant, htimeout⟩
      · exact Or.inr ⟨_, .timeout hbase htenant htimeout⟩
    · obtain ⟨err, hfault⟩ := exists_tenantFault htenant
      exact Or.inr ⟨err, .tenant hbase hfault⟩
  · exact Or.inr ⟨_, .baseUrl hbase⟩

/-- What becomes of a look-up. -/
structure LookedUp (lookup : String → Option String) : Prop where
  /-- There are settings exactly when all checks hold. -/
  accepted : (∃ s, ofLookup lookup = .ok s) ↔
    BaseUrlSet (lookup baseUrlSetting) ∧
      TenantSet (lookup organizationSetting) (lookup environmentSetting) ∧
      TimeoutSet (lookup timeoutSetting)
  /-- They say what was looked up. -/
  told : ∀ s, ofLookup lookup = .ok s → Tells lookup s
  /-- The error is that of the first check that fails. -/
  refused : ∀ err, ofLookup lookup = .error err ↔ Refused lookup err
  /-- No tenant is lost: without one neither of its names was set. -/
  untenanted : ∀ s, ofLookup lookup = .ok s → s.tenant = none →
    lookup organizationSetting = none ∧ lookup environmentSetting = none

/-- Settings are looked up as the checks on the base URL, the tenant and the timeout say, in this
order. -/
theorem ofLookup_by_checks (lookup : String → Option String) : LookedUp lookup := by
  have htold : ∀ s, ofLookup lookup = .ok s → Tells lookup s := by
    intro s hs
    rcases checked_or_refused lookup with ⟨hbase, htenant, htimeout⟩ | ⟨err, hrefused⟩
    · obtain ⟨s', hs', htells⟩ := exists_tells hbase htenant htimeout
      rw [hs, Except.ok.injEq] at hs'
      exact hs' ▸ htells
    · rw [ofLookup_of_refused hrefused] at hs
      cases hs
  constructor
  case accepted =>
    constructor
    · rintro ⟨s, hs⟩
      refine (checked_or_refused lookup).resolve_right ?_
      rintro ⟨err, hrefused⟩
      rw [ofLookup_of_refused hrefused] at hs
      cases hs
    · rintro ⟨hbase, htenant, htimeout⟩
      obtain ⟨s, hs, -⟩ := exists_tells hbase htenant htimeout
      exact ⟨s, hs⟩
  case told => exact htold
  case refused =>
    refine fun err => ⟨fun herr => ?_, ofLookup_of_refused⟩
    rcases checked_or_refused lookup with ⟨hbase, htenant, htimeout⟩ | ⟨err', hrefused⟩
    · obtain ⟨s, hs, -⟩ := exists_tells hbase htenant htimeout
      rw [herr] at hs
      cases hs
    · rw [ofLookup_of_refused hrefused, Except.error.injEq] at herr
      exact herr ▸ hrefused
  case untenanted =>
    intro s hs hnone
    have htells := htold s hs
    rw [htells.organization, htells.environment, hnone]
    exact ⟨rfl, rfl⟩

end LinkSettings

end PlatformLink
