import Mathlib.Data.List.Induction
import PlatformLink.Proofs.Authorization
import PlatformLink.Proofs.Text.Pieces

/-!
# The roles that a guard keeps

Roles are declared one after the other. The first that is blank or holds a comma refuses the guard.
Otherwise the guard keeps each role where it is declared first, trimmed and as it is spelled there,
without the super administrator, who is put last. So the roles of a guard tell the guard: declared
again, joined by commas and split, or read from the header of a caller, they are the same roles.
-/

namespace PlatformLink

open Text (eqIgnoringCase isBlank trim)

/-! ## Roles that refuse a guard -/

/-- What is wrong with a role that cannot be declared. -/
inductive RoleFault (role : String) : LinkError → Prop where
  | blank (h : isBlank role = true) : RoleFault role (.invalid (.blank "role"))
  | comma (hblank : isBlank role = false) (h : ',' ∈ role.toList) :
      RoleFault role (.validation (.commaInRole (trim role)))

/-- The first role that cannot be declared, and what is wrong with it. -/
def FirstFault (declared : List String) (e : LinkError) : Prop :=
  ∃ before role after, declared = before ++ role :: after ∧
    (∀ d ∈ before, isBlank d = false ∧ ',' ∉ d.toList) ∧ RoleFault role e

theorem declarable_iff {role : String} :
    Declarable role ↔ isBlank role = false ∧ ',' ∉ role.toList := by
  have hcomma := Text.mem_trim_iff (c := ',') (by decide) role
  constructor
  · rintro ⟨hblank, h⟩
    exact ⟨hblank, mt hcomma.mpr h⟩
  · rintro ⟨hblank, h⟩
    exact ⟨hblank, mt hcomma.mp h⟩

theorem RoleFault.not_declarable {role : String} {e : LinkError} (h : RoleFault role e) :
    ¬Declarable role := by
  rw [declarable_iff]
  rintro ⟨hblank, hcomma⟩
  cases h with
  | blank h =>
    rw [hblank] at h
    cases h
  | comma _ h => exact hcomma h

theorem exists_roleFault {role : String} (h : ¬Declarable role) : ∃ e, RoleFault role e := by
  cases hblank : isBlank role with
  | true => exact ⟨_, .blank hblank⟩
  | false =>
    refine ⟨_, .comma hblank ?_⟩
    by_contra hcomma
    exact h (declarable_iff.mpr ⟨hblank, hcomma⟩)

namespace RoleGuard

theorem readRole_of_fault {role : String} {e : LinkError} (h : RoleFault role e) :
    readRole role = .error e := by
  cases h with
  | blank h =>
    simp [readRole, Validation.notBlank, Validation.ensure, h, error_mapError, error_bind]
  | comma hblank h =>
    have hcomma : ',' ∈ (trim role).toList := (Text.mem_trim_iff (by decide) role).mpr h
    simp [readRole, Validation.notBlank, Validation.ensure, hblank, ok_mapError, ok_bind, hcomma]

theorem declare_of_firstFault {declared : List String} {e : LinkError}
    (h : FirstFault declared e) (accepted : List String) :
    declare accepted declared = .error e := by
  obtain ⟨before, role, after, rfl, hbefore, hfault⟩ := h
  induction before generalizing accepted with
  | nil => rw [List.nil_append, declare, readRole_of_fault hfault, error_bind]
  | cons d before ih =>
    obtain ⟨hd, hbefore⟩ := List.forall_mem_cons.mp hbefore
    rw [List.cons_append, declare, readRole_eq_ok_iff.mpr ⟨declarable_iff.mpr hd, rfl⟩, ok_bind]
    split
    · exact ih accepted hbefore
    · exact ih _ hbefore

/-- Roles that refuse a guard have a first one among them. -/
theorem exists_firstFault {declared : List String} (h : ¬∀ d ∈ declared, Declarable d) :
    ∃ e, FirstFault declared e := by
  induction declared with
  | nil => exact absurd (fun d hd => absurd hd List.not_mem_nil) h
  | cons d rest ih =>
    by_cases hd : Declarable d
    · have hrest : ¬∀ d ∈ rest, Declarable d := fun hrest =>
        h (List.forall_mem_cons.mpr ⟨hd, hrest⟩)
      obtain ⟨e, before, role, after, rfl, hbefore, hfault⟩ := ih hrest
      exact ⟨e, d :: before, role, after, rfl,
        List.forall_mem_cons.mpr ⟨declarable_iff.mp hd, hbefore⟩, hfault⟩
    · obtain ⟨e, hfault⟩ := exists_roleFault hd
      exact ⟨e, [], d, rest, rfl, fun d hd => absurd hd List.not_mem_nil, hfault⟩

theorem new_eq_error_iff {declared : List String} {e : LinkError} :
    new declared = .error e ↔ FirstFault declared e := by
  have hrefused {e' : LinkError} (h : FirstFault declared e') : new declared = .error e' := by
    rw [new, declare_of_firstFault h, error_bind]
  constructor
  · intro h
    have hnot : ¬∀ d ∈ declared, Declarable d := by
      rw [← exists_new_iff]
      rintro ⟨g, hg⟩
      rw [hg] at h
      cases h
    obtain ⟨e', hfault⟩ := exists_firstFault hnot
    rw [hrefused hfault, Except.error.injEq] at h
    exact h ▸ hfault
  · exact hrefused

/-! ## Roles that are declared first -/

/-- The role at a place of the declaration is not the super administrator, and none before it is the
same. -/
def FirstAt (declared : List String) (k : Nat) : Prop :=
  ∃ d, declared[k]? = some d ∧ ¬SameRole d superAdminRole ∧
    ∀ j < k, ∀ e, declared[j]? = some e → ¬SameRole e d

/-- The roles at places of the declaration, trimmed. -/
def rolesAt (declared : List String) (places : List Nat) : List String :=
  places.filterMap fun k => declared[k]?.map trim

theorem declare_append (accepted before after : List String) :
    declare accepted (before ++ after) =
      declare accepted before >>= fun result => declare result after := by
  induction before generalizing accepted with
  | nil => rfl
  | cons d before ih =>
    rw [List.cons_append, declare, declare]
    cases readRole d with
    | error e => rfl
    | ok r =>
      rw [ok_bind, ok_bind]
      split
      · exact ih accepted
      · exact ih _

theorem declare_singleton {accepted : List String} {d : String} (h : Declarable d) :
    declare accepted [d] =
      .ok (if eqIgnoringCase (trim d) superAdminRole || hasRole accepted (trim d) then accepted
        else accepted ++ [trim d]) := by
  rw [declare, readRole_eq_ok_iff.mpr ⟨h, rfl⟩, ok_bind]
  split <;> rfl

theorem sameRole_superAdminRole {d : String} :
    SameRole d superAdminRole ↔ eqIgnoringCase (trim d) superAdminRole = true := by
  rw [SameRole, trim_superAdminRole]

/-- A role that is not the super administrator is among those accepted if it was declared. -/
theorem Declares.hasRole_iff {declared result : List String} (h : Declares [] declared result)
    {d : String} (hd : ¬SameRole d superAdminRole) :
    hasRole result (trim d) = true ↔ ∃ e ∈ declared, SameRole e d := by
  rw [hasRole, List.any_eq_true]
  constructor
  · rintro ⟨r, hr, hsame⟩
    rcases h.added r hr with hnil | ⟨e, he, rfl⟩
    · cases hnil
    · exact ⟨e, he, hsame⟩
  · rintro ⟨e, he, hsame⟩
    rcases h.covered e he with hsuper | ⟨r, hr, hcase⟩
    · exact absurd (hsame.symm.trans (sameRole_superAdminRole.mpr hsuper)) hd
    · refine ⟨r, hr, ?_⟩
      rw [Text.eqIgnoringCase_iff] at hcase ⊢
      exact hcase.trans (sameRole_iff.mp hsame)

/-- A role that is neither the super administrator nor was declared before. -/
def IsNew (declared : List String) (d : String) : Prop :=
  ¬SameRole d superAdminRole ∧ ¬∃ e ∈ declared, SameRole e d

/-- What is passed over is what is not new. -/
theorem Declares.passedOver_iff {declared result : List String} (h : Declares [] declared result)
    (d : String) :
    (eqIgnoringCase (trim d) superAdminRole || hasRole result (trim d)) = true ↔
      ¬IsNew declared d := by
  rw [Bool.or_eq_true_iff, ← sameRole_superAdminRole, IsNew, not_and_or, not_not, not_not]
  by_cases hsuper : SameRole d superAdminRole
  · simp [hsuper]
  · rw [h.hasRole_iff hsuper]

theorem lt_of_firstAt {declared : List String} {k : Nat} (h : FirstAt declared k) :
    k < declared.length := by
  obtain ⟨d, hd, -⟩ := h
  exact (List.getElem?_eq_some_iff.mp hd).1

theorem firstAt_append_of_lt {declared more : List String} {k : Nat} (hk : k < declared.length) :
    FirstAt (declared ++ more) k ↔ FirstAt declared k := by
  rw [FirstAt, FirstAt, List.getElem?_append_left hk]
  apply exists_congr
  intro d
  apply and_congr_right
  intro _
  apply and_congr_right
  intro _
  apply forall₂_congr
  intro j hj
  rw [List.getElem?_append_left (hj.trans hk)]

/-- The role that is declared last. -/
theorem firstAt_concat_length {declared : List String} {d : String} :
    FirstAt (declared ++ [d]) declared.length ↔ IsNew declared d := by
  have hlast : (declared ++ [d])[declared.length]? = some d := List.getElem?_concat_length
  rw [FirstAt, hlast]
  constructor
  · rintro ⟨d', hd', hsuper, hbefore⟩
    obtain rfl := Option.some.inj hd'
    refine ⟨hsuper, ?_⟩
    rintro ⟨e, he, hsame⟩
    obtain ⟨j, hj, rfl⟩ := List.mem_iff_getElem.mp he
    refine hbefore j hj _ ?_ hsame
    rw [List.getElem?_append_left hj, List.getElem?_eq_getElem hj]
  · rintro ⟨hsuper, hnew⟩
    refine ⟨d, rfl, hsuper, ?_⟩
    intro j hj e he hsame
    rw [List.getElem?_append_left hj] at he
    exact hnew ⟨e, List.mem_of_getElem? he, hsame⟩

/-- One role more adds its own place or none. -/
theorem firstAt_concat_iff {declared : List String} {d : String} {k : Nat} :
    FirstAt (declared ++ [d]) k ↔ FirstAt declared k ∨ k = declared.length ∧ IsNew declared d := by
  constructor
  · intro h
    have hk := lt_of_firstAt h
    rw [List.length_append, List.length_singleton] at hk
    rcases Nat.lt_succ_iff_lt_or_eq.mp hk with hlt | rfl
    · exact Or.inl ((firstAt_append_of_lt hlt).mp h)
    · exact Or.inr ⟨rfl, firstAt_concat_length.mp h⟩
  · rintro (h | ⟨rfl, h⟩)
    · exact (firstAt_append_of_lt (lt_of_firstAt h)).mpr h
    · exact firstAt_concat_length.mpr h

theorem rolesAt_append_of_lt {declared more : List String} {places : List Nat}
    (h : ∀ k ∈ places, k < declared.length) :
    rolesAt (declared ++ more) places = rolesAt declared places := by
  apply List.filterMap_congr
  intro k hk
  rw [List.getElem?_append_left (h k hk)]

theorem rolesAt_concat {declared : List String} {d : String} {places : List Nat}
    (h : ∀ k ∈ places, k < declared.length) :
    rolesAt (declared ++ [d]) (places ++ [declared.length]) =
      rolesAt declared places ++ [trim d] := by
  have hlast : rolesAt (declared ++ [d]) [declared.length] = [trim d] := by
    simp [rolesAt]
  rw [rolesAt, List.filterMap_append, ← rolesAt, ← rolesAt, hlast, rolesAt_append_of_lt h]

/-- Declaring roles keeps those at the places where they are declared first. -/
theorem exists_places {declared : List String} (h : ∀ d ∈ declared, Declarable d) :
    ∃ places : List Nat, places.Pairwise (· < ·) ∧ (∀ k, k ∈ places ↔ FirstAt declared k) ∧
      declare [] declared = .ok (rolesAt declared places) := by
  induction declared using List.reverseRecOn with
  | nil =>
    refine ⟨[], .nil, ?_, rfl⟩
    intro k
    refine iff_of_false List.not_mem_nil fun hfirst => ?_
    exact absurd (lt_of_firstAt hfirst) (Nat.not_lt_zero k)
  | append_singleton init d ih =>
    obtain ⟨hinit, hd⟩ := List.forall_mem_append.mp h
    obtain ⟨places, hsorted, hplaces, hdeclare⟩ := ih hinit
    have hbounded : ∀ k ∈ places, k < init.length := fun k hk => lt_of_firstAt ((hplaces k).mp hk)
    have hknown := (declares_of_declare hdeclare).passedOver_iff d
    rw [declare_append, hdeclare, ok_bind, declare_singleton (hd d (List.mem_singleton_self d))]
    simp only [firstAt_concat_iff]
    by_cases hnew : IsNew init d
    · refine ⟨places ++ [init.length], ?_, ?_, ?_⟩
      · rw [List.pairwise_append]
        refine ⟨hsorted, List.pairwise_singleton _ _, ?_⟩
        intro k hk j hj
        rw [List.mem_singleton.mp hj]
        exact hbounded k hk
      · intro k
        rw [List.mem_append, List.mem_singleton, hplaces]
        exact or_congr_right (and_iff_left hnew).symm
      · rw [if_neg (mt hknown.mp (not_not.mpr hnew)), rolesAt_concat hbounded]
    · refine ⟨places, hsorted, ?_, ?_⟩
      · intro k
        rw [hplaces, or_iff_left fun h => hnew h.2]
      · rw [if_pos (hknown.mpr hnew), rolesAt_append_of_lt hbounded]

/-! ## Roles that are kept as they are -/

/-- Roles that may be declared, trimmed, and each of them once. -/
structure Canonical (roles : List String) : Prop where
  declarable : ∀ r ∈ roles, Declarable r
  trimmed : ∀ r ∈ roles, trim r = r
  distinct : roles.Pairwise fun r s => eqIgnoringCase r s = false

/-- Declaring them once more changes nothing. -/
theorem Canonical.declare_eq {accepted roles : List String} (h : Canonical roles)
    (hnew : ∀ a ∈ accepted, ∀ r ∈ roles, eqIgnoringCase a r = false)
    (hsuper : ∀ r ∈ roles, eqIgnoringCase r superAdminRole = false) :
    declare accepted roles = .ok (accepted ++ roles) := by
  induction roles generalizing accepted with
  | nil => rw [declare, List.append_nil]
  | cons r rest ih =>
    obtain ⟨hdeclarable, htrimmed, hdistinct⟩ := h
    obtain ⟨hd, hdeclarable⟩ := List.forall_mem_cons.mp hdeclarable
    obtain ⟨ht, htrimmed⟩ := List.forall_mem_cons.mp htrimmed
    obtain ⟨hr, hdistinct⟩ := List.pairwise_cons.mp hdistinct
    obtain ⟨hs, hsuper⟩ := List.forall_mem_cons.mp hsuper
    have hmissing : hasRole accepted r = false := by
      rw [hasRole, List.any_eq_false]
      intro a ha
      rw [hnew a ha r List.mem_cons_self]
      exact Bool.false_ne_true
    have hstep : declare accepted (r :: rest) = declare (accepted ++ [r]) rest := by
      rw [declare, readRole_eq_ok_iff.mpr ⟨hd, ht⟩, ok_bind, if_neg (by simp [hs, hmissing])]
    rw [hstep, ih ⟨hdeclarable, htrimmed, hdistinct⟩ ?_ hsuper, List.append_assoc,
      List.singleton_append]
    intro a ha s hs
    rcases List.mem_append.mp ha with ha | ha
    · exact hnew a ha s (List.mem_cons_of_mem r hs)
    · rw [List.mem_singleton.mp ha]
      exact hr s hs

/-- The roles of a guard. -/
structure KeptRoles (declared : List String) (g : RoleGuard) : Prop where
  not_blank : ∀ r ∈ g.roles, isBlank r = false
  trimmed : ∀ r ∈ g.roles, trim r = r
  no_comma : ∀ r ∈ g.roles, ',' ∉ r.toList
  distinct : g.roles.Pairwise fun r s => eqIgnoringCase r s = false
  /-- The super administrator is the last of them, and before him stands what was declared first, in
  its order and as it was spelled there. -/
  firsts : ∃ places : List Nat, places.Pairwise (· < ·) ∧ (∀ k, k ∈ places ↔ FirstAt declared k) ∧
    g.roles = rolesAt declared places ++ [superAdminRole] ∧
    ∀ r ∈ rolesAt declared places, eqIgnoringCase r superAdminRole = false

theorem pairwise_rolesAt {declared : List String} {places : List Nat}
    (hsorted : places.Pairwise (· < ·)) (hplaces : ∀ k ∈ places, FirstAt declared k) :
    (rolesAt declared places).Pairwise fun r s => eqIgnoringCase r s = false := by
  rw [rolesAt, List.pairwise_filterMap]
  refine hsorted.imp_of_mem ?_
  intro j k hj hk hlt r hr s hs
  obtain ⟨d, hd, rfl⟩ := Option.map_eq_some_iff.mp hr
  obtain ⟨e, he, rfl⟩ := Option.map_eq_some_iff.mp hs
  obtain ⟨e', he', -, hbefore⟩ := hplaces k hk
  rw [he] at he'
  obtain rfl := Option.some.inj he'
  exact Bool.eq_false_iff.mpr (hbefore j hlt d hd)

theorem keptRoles_of_new {declared : List String} {g : RoleGuard} (h : new declared = .ok g) :
    KeptRoles declared g := by
  have hdeclarable : ∀ d ∈ declared, Declarable d := (exists_new_iff declared).mp ⟨g, h⟩
  obtain ⟨places, hsorted, hplaces, hdeclare⟩ := exists_places hdeclarable
  have hroles : g.roles = rolesAt declared places ++ [superAdminRole] := by
    rw [new, hdeclare, ok_bind] at h
    rw [← Except.ok.inj h]
  have hsuper : ∀ r ∈ rolesAt declared places, eqIgnoringCase r superAdminRole = false := by
    intro r hr
    obtain ⟨k, hk, hr⟩ := List.mem_filterMap.mp hr
    obtain ⟨d, hd, rfl⟩ := Option.map_eq_some_iff.mp hr
    obtain ⟨d', hd', hother, -⟩ := (hplaces k).mp hk
    rw [hd] at hd'
    obtain rfl := Option.some.inj hd'
    exact Bool.eq_false_iff.mpr (mt sameRole_superAdminRole.mpr hother)
  have hnamed := (guards_of_new h).named
  constructor
  case not_blank =>
    intro r hr
    obtain ⟨d, -, rfl, hd⟩ := hnamed r hr
    rw [Text.isBlank_trim]
    exact hd.not_blank
  case trimmed =>
    intro r hr
    obtain ⟨d, -, rfl, -⟩ := hnamed r hr
    exact Text.trim_trim d
  case no_comma =>
    intro r hr
    obtain ⟨d, -, rfl, hd⟩ := hnamed r hr
    exact hd.no_comma
  case distinct =>
    rw [hroles, List.pairwise_append]
    refine ⟨pairwise_rolesAt hsorted fun k => (hplaces k).mp, List.pairwise_singleton _ _, ?_⟩
    intro r hr s hs
    rw [List.mem_singleton.mp hs]
    exact hsuper r hr
  case firsts => exact ⟨places, hsorted, hplaces, hroles, hsuper⟩

namespace KeptRoles

variable {declared : List String} {g : RoleGuard}

/-- The roles of a guard make the same guard. -/
theorem new_roles (h : KeptRoles declared g) : new g.roles = .ok g := by
  obtain ⟨places, -, -, hroles, hsuper⟩ := h.firsts
  have hmem : ∀ r ∈ rolesAt declared places, r ∈ g.roles := by
    intro r hr
    rw [hroles]
    exact List.mem_append_left _ hr
  have hcanonical : Canonical (rolesAt declared places) := by
    constructor
    case declarable =>
      intro r hr
      exact declarable_iff.mpr ⟨h.not_blank r (hmem r hr), h.no_comma r (hmem r hr)⟩
    case trimmed =>
      intro r hr
      exact h.trimmed r (hmem r hr)
    case distinct =>
      have hdistinct := h.distinct
      rw [hroles, List.pairwise_append] at hdistinct
      exact hdistinct.1
  have hfirst : declare [] (rolesAt declared places) = .ok (rolesAt declared places) :=
    hcanonical.declare_eq (fun a ha => absurd ha List.not_mem_nil) hsuper
  have hlast : declare (rolesAt declared places) [superAdminRole] =
      .ok (rolesAt declared places) := by
    rw [declare_singleton declarable_superAdminRole, trim_superAdminRole,
      Text.eqIgnoringCase_refl, Bool.true_or, if_pos rfl]
  rw [new, hroles, declare_append, hfirst, ok_bind, hlast, ok_bind, ← hroles]
  rfl

/-- The list of the roles tells each of them. -/
theorem split_roleList (h : KeptRoles declared g) : Text.split ',' g.roleList = g.roles := by
  obtain ⟨places, -, -, hroles, -⟩ := h.firsts
  have hne : g.roles ≠ [] := by
    rw [hroles]
    exact List.append_ne_nil_of_right_ne_nil _ (List.cons_ne_nil _ _)
  exact Text.split_intercalate hne h.no_comma

/-- A caller who is told of by the list has just the roles of the guard. -/
theorem roles_ofRoleHeader (h : KeptRoles declared g) (subject : String) :
    (CallerClaims.ofRoleHeader subject g.roleList).roles = g.roles := by
  have htrim : g.roles.map trim = g.roles := by
    rw [List.map_congr_left h.trimmed, List.map_id']
  rw [CallerClaims.ofRoleHeader, CallerClaims.authenticated, h.split_roleList, htrim,
    List.filter_eq_self]
  intro r hr
  have hne : r ≠ "" := by
    rintro rfl
    exact absurd (h.not_blank "" hr) (by decide)
  simpa using hne

end KeptRoles

/-- What becomes of declared roles. -/
structure Represents (declared : List String) : Prop where
  refused_iff : (∃ e, new declared = .error e) ↔
    ∃ d ∈ declared, isBlank d = true ∨ ',' ∈ d.toList
  /-- The error is that of the first role at fault. -/
  refused : ∀ e, new declared = .error e ↔ FirstFault declared e
  kept : ∀ g, new declared = .ok g → KeptRoles declared g
  /-- The guard can be made again of its roles and of their list. -/
  again : ∀ g, new declared = .ok g →
    new g.roles = .ok g ∧ new (Text.split ',' g.roleList) = .ok g
  claimed : ∀ g, new declared = .ok g → ∀ subject,
    (CallerClaims.ofRoleHeader subject g.roleList).roles = g.roles

/-- Whatever roles are declared, the first at fault is told, or the guard keeps those that are
declared first, and its roles tell the guard. -/
theorem represents_declared (declared : List String) : Represents declared := by
  constructor
  case refused_iff =>
    constructor
    · rintro ⟨e, he⟩
      obtain ⟨before, role, after, rfl, -, hfault⟩ := new_eq_error_iff.mp he
      have hnot := hfault.not_declarable
      rw [declarable_iff, not_and_or, Bool.not_eq_false, not_not] at hnot
      exact ⟨role, List.mem_append_right _ List.mem_cons_self, hnot⟩
    · rintro ⟨d, hd, hfault⟩
      have hnot : ¬∀ d ∈ declared, Declarable d := by
        intro hall
        obtain ⟨hblank, hcomma⟩ := declarable_iff.mp (hall d hd)
        rcases hfault with h | h
        · rw [hblank] at h
          cases h
        · exact hcomma h
      obtain ⟨e, he⟩ := exists_firstFault hnot
      exact ⟨e, new_eq_error_iff.mpr he⟩
  case refused => exact fun e => new_eq_error_iff
  case kept => exact fun g => keptRoles_of_new
  case again =>
    intro g hg
    have hkept := keptRoles_of_new hg
    rw [hkept.split_roleList]
    exact ⟨hkept.new_roles, hkept.new_roles⟩
  case claimed => exact fun g hg => (keptRoles_of_new hg).roles_ofRoleHeader

example : new ["writer", " Reader", "superADMIN", "READER ", "a b"] =
    .ok ⟨["writer", "Reader", "a b", "SuperAdmin"]⟩ := by
  decide +kernel

end RoleGuard

end PlatformLink
