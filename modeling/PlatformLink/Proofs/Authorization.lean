import PlatformLink.Auth
import PlatformLink.Proofs.Outcome
import PlatformLink.Proofs.Text.Trimming

/-!
# Who is authorized

A guard keeps its declared roles trimmed, without repetitions and with the super administrator put
last; a caller has the roles that are left of a list or of a header value once they are trimmed and
blank ones are dropped. Of all this the decision shows nothing: a known caller is authorized just
when one of the roles that were told of him is one of those that were declared, or the super
administrator, up to case and the blanks around it.
-/

namespace PlatformLink

open Text (eqIgnoringCase isBlank lowerAscii trim)

/-! ## Roles as they are told -/

/-- The same role: once both are trimmed they are equal up to case. -/
def SameRole (a b : String) : Prop :=
  eqIgnoringCase (trim a) (trim b) = true

section SameRole

variable {a b c : String}

theorem sameRole_iff : SameRole a b ↔ lowerAscii (trim a) = lowerAscii (trim b) :=
  Text.eqIgnoringCase_iff _ _

theorem SameRole.symm (h : SameRole a b) : SameRole b a :=
  sameRole_iff.mpr (sameRole_iff.mp h).symm

theorem SameRole.trans (h : SameRole a b) (h' : SameRole b c) : SameRole a c :=
  sameRole_iff.mpr ((sameRole_iff.mp h).trans (sameRole_iff.mp h'))

theorem sameRole_recased (h : eqIgnoringCase a b = true) : SameRole a b := by
  rw [sameRole_iff, Text.lowerAscii_trim, Text.lowerAscii_trim, (Text.eqIgnoringCase_iff a b).mp h]

theorem sameRole_padded {left right : String} (hleft : isBlank left = true)
    (hright : isBlank right = true) (a : String) : SameRole a (left ++ a ++ right) := by
  rw [SameRole, Text.trim_pad hleft hright]
  exact Text.eqIgnoringCase_refl _

end SameRole

/-- A role is written in letters of another case or with other blanks around it. -/
inductive Respelled : String → String → Prop where
  | recased {a b : String} (h : eqIgnoringCase a b = true) : Respelled a b
  | padded {left right : String} (hleft : isBlank left = true) (hright : isBlank right = true)
      (a : String) : Respelled a (left ++ a ++ right)
  | symm {a b : String} (h : Respelled a b) : Respelled b a
  | trans {a b c : String} (h : Respelled a b) (h' : Respelled b c) : Respelled a c

theorem Respelled.sameRole {a b : String} (h : Respelled a b) : SameRole a b := by
  induction h with
  | recased h => exact sameRole_recased h
  | padded hleft hright a => exact sameRole_padded hleft hright a
  | symm _ ih => exact ih.symm
  | trans _ _ ih ih' => exact ih.trans ih'

/-- Each role of one list is in the other, in whatever order, spelling and number. -/
def RolesWithin (given more : List String) : Prop :=
  ∀ r ∈ given, ∃ s ∈ more, Respelled r s

/-- Two lists tell of the same roles. -/
def SameRoles (given other : List String) : Prop :=
  RolesWithin given other ∧ RolesWithin other given

/-- One of the given roles is declared, or is the super administrator. -/
def Admits (declared given : List String) : Prop :=
  ∃ r ∈ given, ∃ d ∈ superAdminRole :: declared, SameRole r d

theorem Admits.mono {declared declared' given given' : List String}
    (hdeclared : RolesWithin declared declared') (hgiven : RolesWithin given given')
    (h : Admits declared given) : Admits declared' given' := by
  obtain ⟨r, hr, d, hd, hsame⟩ := h
  obtain ⟨s, hs, hrs⟩ := hgiven r hr
  rcases List.mem_cons.mp hd with rfl | hd
  · exact ⟨s, hs, superAdminRole, List.mem_cons_self, hrs.sameRole.symm.trans hsame⟩
  · obtain ⟨e, he, hde⟩ := hdeclared d hd
    exact ⟨s, hs, e, List.mem_cons_of_mem _ he,
      hrs.sameRole.symm.trans (hsame.trans hde.sameRole)⟩

theorem admits_congr {declared declared' given given' : List String}
    (hdeclared : SameRoles declared declared') (hgiven : SameRoles given given') :
    Admits declared given ↔ Admits declared' given' :=
  ⟨.mono hdeclared.1 hgiven.1, .mono hdeclared.2 hgiven.2⟩

/-! ## Roles that may be declared -/

/-- A role that is not blank and holds no comma. -/
structure Declarable (role : String) : Prop where
  not_blank : isBlank role = false
  no_comma : ',' ∉ (trim role).toList

theorem isBlank_iff_lowerAscii_trim (role : String) :
    isBlank role = true ↔ lowerAscii (trim role) = "" := by
  rw [Text.lowerAscii_eq_empty_iff, Text.trim_eq_empty_iff]

theorem Declarable.congr {a b : String} (h : Declarable a) (hsame : SameRole a b) :
    Declarable b := by
  have hlower := sameRole_iff.mp hsame
  constructor
  · rw [← Bool.not_eq_true, isBlank_iff_lowerAscii_trim, ← hlower, ← isBlank_iff_lowerAscii_trim,
      h.not_blank]
    exact Bool.false_ne_true
  · rw [← Text.comma_mem_lowerAscii, ← hlower, Text.comma_mem_lowerAscii]
    exact h.no_comma

namespace RoleGuard

theorem readRole_eq_ok_iff {role r : String} :
    readRole role = .ok r ↔ Declarable role ∧ trim role = r := by
  unfold readRole
  simp only [bind_eq_ok_iff, mapError_eq_ok_iff, Validation.notBlank, Validation.ensure_eq_ok_iff]
  constructor
  · rintro ⟨_, ⟨hblank, rfl⟩, h⟩
    split at h
    next => cases h
    next hcomma => exact ⟨⟨by simpa using hblank, by simpa using hcomma⟩, Except.ok.inj h⟩
  · rintro ⟨⟨hblank, hcomma⟩, rfl⟩
    exact ⟨role, ⟨by simp [hblank], rfl⟩, if_neg (by simpa using hcomma)⟩

/-- What declaring roles adds to those accepted. -/
structure Declares (accepted declared result : List String) : Prop where
  declarable : ∀ d ∈ declared, Declarable d
  kept : accepted ⊆ result
  added : ∀ r ∈ result, r ∈ accepted ∨ ∃ d ∈ declared, r = trim d
  covered : ∀ d ∈ declared, eqIgnoringCase (trim d) superAdminRole = true ∨
    ∃ r ∈ result, eqIgnoringCase r (trim d) = true

theorem declares_of_declare {accepted declared result : List String}
    (h : declare accepted declared = .ok result) : Declares accepted declared result := by
  induction declared generalizing accepted with
  | nil =>
    obtain rfl := Except.ok.inj h
    exact ⟨nofun, List.Subset.refl _, fun _ => Or.inl, nofun⟩
  | cons d rest ih =>
    obtain ⟨r, hr, h⟩ := bind_eq_ok_iff.mp h
    obtain ⟨hdeclarable, rfl⟩ := readRole_eq_ok_iff.mp hr
    split at h
    next hknown =>
      obtain ⟨hmore, hkept, hadded, hcovered⟩ := ih h
      refine ⟨List.forall_mem_cons.mpr ⟨hdeclarable, hmore⟩, hkept, ?_,
        List.forall_mem_cons.mpr ⟨?_, hcovered⟩⟩
      · intro r hr
        exact (hadded r hr).imp_right fun ⟨e, he, heq⟩ => ⟨e, List.mem_cons_of_mem d he, heq⟩
      · rcases Bool.or_eq_true_iff.mp hknown with hsuper | hhas
        · exact Or.inl hsuper
        · obtain ⟨r, hr, hsame⟩ := List.any_eq_true.mp hhas
          exact Or.inr ⟨r, hkept hr, hsame⟩
    next =>
      obtain ⟨hmore, hkept, hadded, hcovered⟩ := ih h
      have hnew : trim d ∈ result := hkept (List.mem_append_right _ List.mem_cons_self)
      refine ⟨List.forall_mem_cons.mpr ⟨hdeclarable, hmore⟩,
        fun r hr => hkept (List.mem_append_left _ hr), ?_, List.forall_mem_cons.mpr
          ⟨Or.inr ⟨trim d, hnew, Text.eqIgnoringCase_refl _⟩, hcovered⟩⟩
      intro r hr
      rcases hadded r hr with hold | ⟨e, he, heq⟩
      · rcases List.mem_append.mp hold with hold | hlast
        · exact Or.inl hold
        · exact Or.inr ⟨d, List.mem_cons_self, List.mem_singleton.mp hlast⟩
      · exact Or.inr ⟨e, List.mem_cons_of_mem d he, heq⟩

theorem exists_declare {declared : List String} (h : ∀ d ∈ declared, Declarable d)
    (accepted : List String) : ∃ result, declare accepted declared = .ok result := by
  induction declared generalizing accepted with
  | nil => exact ⟨accepted, rfl⟩
  | cons d rest ih =>
    obtain ⟨hd, hrest⟩ := List.forall_mem_cons.mp h
    rw [declare, readRole_eq_ok_iff.mpr ⟨hd, rfl⟩, ok_bind]
    split
    next => exact ih hrest accepted
    next => exact ih hrest _

/-- A guard is made just of roles that may be declared. -/
theorem exists_new_iff (declared : List String) :
    (∃ g, new declared = .ok g) ↔ ∀ d ∈ declared, Declarable d := by
  constructor
  · rintro ⟨g, hg⟩
    obtain ⟨result, hresult, -⟩ := bind_eq_ok_iff.mp hg
    exact (declares_of_declare hresult).declarable
  · intro h
    obtain ⟨result, hresult⟩ := exists_declare h []
    exact ⟨⟨result ++ [superAdminRole]⟩, by rw [new, hresult]; rfl⟩

/-- The roles of a guard are those that were declared, trimmed, and the super administrator. -/
structure Guards (g : RoleGuard) (declared : List String) : Prop where
  named : ∀ r ∈ g.roles, ∃ d ∈ superAdminRole :: declared, r = trim d ∧ Declarable d
  covered : ∀ d ∈ superAdminRole :: declared, ∃ r ∈ g.roles, eqIgnoringCase r (trim d) = true

theorem trim_superAdminRole : trim superAdminRole = superAdminRole := by decide

theorem declarable_superAdminRole : Declarable superAdminRole := ⟨by decide, by decide⟩

theorem guards_of_new {declared : List String} {g : RoleGuard} (h : new declared = .ok g) :
    g.Guards declared := by
  obtain ⟨result, hresult, hg⟩ := bind_eq_ok_iff.mp h
  obtain rfl := Except.ok.inj hg
  obtain ⟨hdeclarable, -, hadded, hcovered⟩ := declares_of_declare hresult
  have hsuper : superAdminRole ∈ result ++ [superAdminRole] :=
    List.mem_append_right _ List.mem_cons_self
  constructor
  · intro r hr
    rcases List.mem_append.mp hr with hr | hr
    · obtain hnil | ⟨d, hd, heq⟩ := hadded r hr
      · cases hnil
      · exact ⟨d, List.mem_cons_of_mem _ hd, heq, hdeclarable d hd⟩
    · refine ⟨superAdminRole, List.mem_cons_self, ?_, declarable_superAdminRole⟩
      rw [List.mem_singleton.mp hr, trim_superAdminRole]
  · refine List.forall_mem_cons.mpr ⟨⟨superAdminRole, hsuper, ?_⟩, fun d hd => ?_⟩
    · rw [trim_superAdminRole]
      exact Text.eqIgnoringCase_refl _
    · rcases hcovered d hd with hsame | ⟨r, hr, hsame⟩
      · exact ⟨superAdminRole, hsuper, Text.eqIgnoringCase_comm _ _ ▸ hsame⟩
      · exact ⟨r, List.mem_append_left _ hr, hsame⟩

end RoleGuard

/-! ## Callers -/

/-- What a hosting service tells of a caller. -/
inductive Caller where
  | anonymous
  | known (subject : String) (roles : List String)
  | byHeader (subject header : String)
  deriving Repr, DecidableEq

namespace Caller

def claims : Caller → CallerClaims
  | anonymous => .anonymous
  | known subject roles => .authenticated subject roles
  | byHeader subject header => .ofRoleHeader subject header

def isKnown : Caller → Bool
  | anonymous => false
  | known _ _ | byHeader _ _ => true

/-- The roles as they were told. -/
def roles : Caller → List String
  | anonymous => []
  | known _ roles => roles
  | byHeader _ header => Text.split ',' header

theorem isAuthenticated_claims (c : Caller) : c.claims.isAuthenticated = c.isKnown := by
  cases c <;> rfl

/-- Only blank roles are dropped, and none of them is asked for. -/
theorem hasRole_claims_iff (c : Caller) {role : String} (h : role ≠ "") :
    c.claims.hasRole role = true ↔ ∃ r ∈ c.roles, eqIgnoringCase (trim r) role = true := by
  have hkept : ∀ (subject : String) (roles : List String),
      (CallerClaims.authenticated subject roles).hasRole role = true ↔
        ∃ r ∈ roles, eqIgnoringCase (trim r) role = true := by
    intro subject roles
    simp only [CallerClaims.hasRole, CallerClaims.authenticated, hasRole, List.any_eq_true,
      List.mem_filter, List.mem_map]
    constructor
    · rintro ⟨_, ⟨⟨r, hr, rfl⟩, -⟩, hsame⟩
      exact ⟨r, hr, hsame⟩
    · rintro ⟨r, hr, hsame⟩
      refine ⟨trim r, ⟨⟨r, hr, rfl⟩, ?_⟩, hsame⟩
      have hne : trim r ≠ "" := by
        intro hempty
        rw [hempty, Text.eqIgnoringCase_iff, eq_comm, Text.lowerAscii_eq_empty_iff "" |>.mpr rfl,
          Text.lowerAscii_eq_empty_iff] at hsame
        exact h hsame
      simpa using hne
  cases c with
  | anonymous => simp [claims, CallerClaims.anonymous, CallerClaims.hasRole, hasRole, roles]
  | known subject roles => exact hkept subject roles
  | byHeader subject header => exact hkept subject _

end Caller

/-! ## The decision -/

namespace RoleGuard

variable {g : RoleGuard} {declared : List String}

theorem allows_iff (h : g.Guards declared) (c : Caller) :
    g.allows c.claims = true ↔ c.isKnown = true ∧ Admits declared c.roles := by
  rw [allows, Bool.and_eq_true, Caller.isAuthenticated_claims, List.any_eq_true]
  refine and_congr_right fun _ => ⟨?_, ?_⟩
  · rintro ⟨role, hrole, hhas⟩
    obtain ⟨d, hd, rfl, hdeclarable⟩ := h.named role hrole
    have hne : trim d ≠ "" := by
      rw [Ne, Text.trim_eq_empty_iff, hdeclarable.not_blank]
      exact Bool.false_ne_true
    obtain ⟨r, hr, hsame⟩ := (c.hasRole_claims_iff hne).mp hhas
    exact ⟨r, hr, d, hd, hsame⟩
  · rintro ⟨r, hr, d, hd, hsame⟩
    obtain ⟨role, hrole, hcovers⟩ := h.covered d hd
    obtain ⟨e, -, rfl, hdeclarable⟩ := h.named role hrole
    have hne : trim e ≠ "" := by
      rw [Ne, Text.trim_eq_empty_iff, hdeclarable.not_blank]
      exact Bool.false_ne_true
    have hboth : SameRole r e := SameRole.trans hsame (SameRole.symm hcovers)
    exact ⟨trim e, hrole, (c.hasRole_claims_iff hne).mpr ⟨r, hr, hboth⟩⟩

/-- The three cases of a caller, with the answer in each. -/
inductive Answers (g : RoleGuard) (declared : List String) (c : Caller) : Outcome Unit → Prop where
  | unknown (h : c.isKnown = false) : Answers g declared c (.error .unauthenticated)
  | admitted (h : c.isKnown = true) (hadmits : Admits declared c.roles) :
      Answers g declared c (.ok ())
  | denied (h : c.isKnown = true) (hdenied : ¬Admits declared c.roles) :
      Answers g declared c (.error (.forbidden g.roleList))

theorem answers_authorize (h : g.Guards declared) (c : Caller) :
    Answers g declared c (g.authorize c.claims) := by
  rw [authorize, Caller.isAuthenticated_claims]
  cases hknown : c.isKnown with
  | false => exact .unknown hknown
  | true =>
    by_cases hadmits : Admits declared c.roles
    · rw [(allows_iff h c).mpr ⟨hknown, hadmits⟩]
      exact .admitted hknown hadmits
    · have hallows : g.allows c.claims = false :=
        Bool.eq_false_iff.mpr fun hallows => hadmits ((allows_iff h c).mp hallows).2
      rw [hallows]
      exact .denied hknown hadmits

end RoleGuard

/-- The three ways in which a caller may be answered. -/
inductive Decision where
  | admitted
  | unauthenticated
  | forbidden
  deriving Repr, DecidableEq

def Decision.of : Outcome Unit → Decision
  | .ok () => admitted
  | .error .unauthenticated => unauthenticated
  | .error _ => forbidden

namespace RoleGuard.Answers

variable {g g' : RoleGuard} {declared declared' : List String} {c c' : Caller}
  {answer answer' : Outcome Unit}

theorem eq_ok (h : Answers g declared c answer) (hknown : c.isKnown = true)
    (hadmits : Admits declared c.roles) : answer = .ok () := by
  cases h with
  | unknown hunknown => exact absurd hknown (Bool.eq_false_iff.mp hunknown)
  | admitted => rfl
  | denied _ hdenied => exact absurd hadmits hdenied

/-- Callers of whom the same is known and who are admitted alike get the same decision. -/
theorem decision_eq (h : Answers g declared c answer) (h' : Answers g' declared' c' answer')
    (hknown : c.isKnown = c'.isKnown)
    (hadmits : Admits declared c.roles ↔ Admits declared' c'.roles) :
    Decision.of answer = Decision.of answer' := by
  cases h with
  | unknown hc =>
    cases h' with
    | unknown => rfl
    | admitted hc' | denied hc' => exact absurd (hknown.trans hc') (Bool.eq_false_iff.mp hc)
  | admitted hc hadmitted => rw [h'.eq_ok (hknown ▸ hc) (hadmits.mp hadmitted)]
  | denied hc hdenied =>
    cases h' with
    | unknown hc' => exact absurd (hknown ▸ hc) (Bool.eq_false_iff.mp hc')
    | admitted _ hadmitted => exact absurd (hadmits.mpr hadmitted) hdenied
    | denied => rfl

end RoleGuard.Answers

/-- A handler that counts how often it runs. -/
def counting {σ α : Type} (handler : σ → Outcome α × σ) (s : Nat × σ) : Outcome α × (Nat × σ) :=
  ((handler s.2).1, s.1 + 1, (handler s.2).2)

namespace RoleGuard

/-- What a guard of the declared roles does with a caller. -/
structure Decides (g : RoleGuard) (declared : List String) (c : Caller) : Prop where
  unauthenticated : g.authorize c.claims = .error .unauthenticated ↔ c.isKnown = false
  admitted : g.authorize c.claims = .ok () ↔ c.isKnown = true ∧ Admits declared c.roles
  forbidden : g.authorize c.claims = .error (.forbidden g.roleList) ↔
    c.isKnown = true ∧ ¬Admits declared c.roles
  allowed : g.allows c.claims = true ↔ g.authorize c.claims = .ok ()
  /-- Roles that are told in another order, more often, in letters of another case or with other
  blanks around them can be declared as well, and the decision stays. -/
  unchanged : ∀ (declared' : List String) (c' : Caller), SameRoles declared declared' →
    SameRoles c.roles c'.roles → c.isKnown = c'.isKnown →
    ∃ g', new declared' = .ok g' ∧
      Decision.of (g'.authorize c'.claims) = Decision.of (g.authorize c.claims)
  /-- More roles take nothing away. -/
  kept : ∀ (declared' : List String) (g' : RoleGuard) (c' : Caller), new declared' = .ok g' →
    RolesWithin declared declared' → RolesWithin c.roles c'.roles → c.isKnown = c'.isKnown →
    g.authorize c.claims = .ok () → g'.authorize c'.claims = .ok ()
  /-- A handler runs once where the caller is admitted, and else not at all. -/
  runs : ∀ {σ α : Type} (handler : σ → Outcome α × σ) (s : σ),
    g.run c.claims (counting handler) (0, s) = match g.authorize c.claims with
      | .ok () => ((handler s).1, 1, (handler s).2)
      | .error e => (.error e, 0, s)

theorem decides_by_roles (declared : List String) (g : RoleGuard)
    (h : new declared = .ok g ∨ declared = [] ∧ g = superAdminOnly) (c : Caller) :
    g.Decides declared c := by
  have hnew : new declared = .ok g := by
    rcases h with hnew | ⟨rfl, rfl⟩
    · exact hnew
    · exact new_nil
  have hallows := allows_iff (guards_of_new hnew) c
  have hanswers := answers_authorize (guards_of_new hnew) c
  generalize hanswer : g.authorize c.claims = answer at hanswers
  constructor
  case unauthenticated =>
    rw [hanswer]
    cases hanswers <;> simp [*]
  case admitted =>
    rw [hanswer]
    cases hanswers <;> simp [*]
  case forbidden =>
    rw [hanswer]
    cases hanswers <;> simp [*]
  case allowed =>
    rw [hanswer, hallows]
    cases hanswers <;> simp [*]
  case unchanged =>
    intro declared' c' hdeclared hroles hknown
    have hdeclarable : ∀ d ∈ declared', Declarable d := by
      intro d hd
      obtain ⟨e, he, hsame⟩ := hdeclared.2 d hd
      exact ((exists_new_iff declared).mp ⟨g, hnew⟩ e he).congr hsame.sameRole.symm
    obtain ⟨g', hg'⟩ := (exists_new_iff declared').mpr hdeclarable
    refine ⟨g', hg', ?_⟩
    have hanswers' := answers_authorize (guards_of_new hg') c'
    rw [hanswer]
    exact hanswers'.decision_eq hanswers hknown.symm (admits_congr hdeclared hroles).symm
  case kept =>
    intro declared' g' c' hg' hdeclared hroles hknown hok
    rw [hanswer] at hok
    subst hok
    cases hanswers with
    | admitted hc hadmits =>
      exact (answers_authorize (guards_of_new hg') c').eq_ok (hknown ▸ hc)
        (hadmits.mono hdeclared hroles)
  case runs =>
    intro σ α handler s
    rw [run, hanswer]
    cases answer <;> rfl

/-- Roles with blanks, repetitions and the super administrator among them, and a caller with a
blank role in his header. -/
theorem decides_by_roles_header :
    (new [" Reader", "reader ", "SUPERADMIN", "Writer"] =
        .ok ⟨["Reader", "Writer", "SuperAdmin"]⟩ ∨
      [" Reader", "reader ", "SUPERADMIN", "Writer"] = [] ∧
        ⟨["Reader", "Writer", "SuperAdmin"]⟩ = superAdminOnly) ∧
      Decides ⟨["Reader", "Writer", "SuperAdmin"]⟩ [" Reader", "reader ", "SUPERADMIN", "Writer"]
        (.byHeader "svc" "guest,, wRITER ") :=
  have hnew : new [" Reader", "reader ", "SUPERADMIN", "Writer"] =
      .ok ⟨["Reader", "Writer", "SuperAdmin"]⟩ := by decide +kernel
  ⟨Or.inl hnew, decides_by_roles _ _ (Or.inl hnew) _⟩

end RoleGuard

end PlatformLink
