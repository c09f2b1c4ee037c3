import Mathlib.Data.List.Induction
import PlatformLink.Health

/-!
# Aggregated health

The worse of two statuses is the first one unless the second is more severe, so of equally severe
ones the first stays. The worst of a list is then its first status of the greatest severity
(`IsFirstWorst`), and a list may be cut into parts in any way. It does not matter to a report in
which order the resources are given their turns, or how many each needs: what a resource says first
stands at its place.
-/

namespace PlatformLink

namespace HealthStatus

/-! ## The worse of two -/

variable {a b s t : HealthStatus}

theorem worst_of_severity_le (h : b.severity ≤ a.severity) : worst a b = a :=
  if_neg (Nat.not_lt.mpr h)

theorem worst_of_severity_lt (h : a.severity < b.severity) : worst a b = b :=
  if_pos h

theorem severity_worst (a b : HealthStatus) :
    (worst a b).severity = max a.severity b.severity := by
  rcases Nat.lt_or_ge a.severity b.severity with h | h
  · rw [worst_of_severity_lt h, Nat.max_eq_right (Nat.le_of_lt h)]
  · rw [worst_of_severity_le h, Nat.max_eq_left h]

theorem worst_assoc (a b c : HealthStatus) : worst (worst a b) c = worst a (worst b c) := by
  rcases Nat.lt_or_ge b.severity c.severity with hbc | hbc
  · rw [worst_of_severity_lt hbc]
    rcases Nat.lt_or_ge a.severity b.severity with hab | hab
    · rw [worst_of_severity_lt hab, worst_of_severity_lt hbc,
        worst_of_severity_lt (Nat.lt_trans hab hbc)]
    · rw [worst_of_severity_le hab]
  · rw [worst_of_severity_le hbc]
    refine worst_of_severity_le ?_
    rw [severity_worst]
    exact Nat.le_trans hbc (Nat.le_max_right _ _)

instance : Std.Associative worst := ⟨worst_assoc⟩

/-! ## The worst of a list -/

/-- A status is the first of the greatest severity. -/
def IsFirstWorst (statuses : List HealthStatus) (s : HealthStatus) : Prop :=
  ∃ before after, statuses = before ++ s :: after ∧ (∀ t ∈ before, t.severity < s.severity) ∧
    ∀ t ∈ after, t.severity ≤ s.severity

theorem worstOf_concat (statuses : List HealthStatus) (s : HealthStatus) :
    worstOf (statuses ++ [s]) = worst (worstOf statuses) s := by
  simp [worstOf]

theorem worstOf_append (left right : List HealthStatus) :
    worstOf (left ++ right) = worst (worstOf left) (worstOf right) :=
  calc worstOf (left ++ right)
    _ = right.foldl worst (worstOf left) := List.foldl_append
    _ = right.foldl worst (worst (worstOf left) healthy) := by rw [worst_healthy]
    _ = worst (worstOf left) (worstOf right) := List.foldl_assoc

theorem worstOf_flatten (groups : List (List HealthStatus)) :
    worstOf groups.flatten = worstOf (groups.map worstOf) := by
  induction groups using List.reverseRecOn with
  | nil => rfl
  | append_singleton groups group ih =>
    rw [List.flatten_concat, worstOf_append, List.map_append, List.map_singleton, worstOf_concat,
      ih]

namespace IsFirstWorst

variable {statuses : List HealthStatus}

theorem mem (h : IsFirstWorst statuses s) : s ∈ statuses := by
  obtain ⟨before, after, rfl, -, -⟩ := h
  exact List.mem_append_right before List.mem_cons_self

theorem severity_le (h : IsFirstWorst statuses s) (ht : t ∈ statuses) :
    t.severity ≤ s.severity := by
  obtain ⟨before, after, rfl, hbefore, hafter⟩ := h
  rcases List.mem_append.mp ht with ht | ht
  · exact Nat.le_of_lt (hbefore t ht)
  · rcases List.mem_cons.mp ht with rfl | ht
    · exact Nat.le_refl _
    · exact hafter t ht

/-- A search for a status as severe as any finds it. -/
theorem find?_eq_some (h : IsFirstWorst statuses s) :
    statuses.find? (fun t => statuses.all fun u => u.severity ≤ t.severity) = some s := by
  have hbound : ∀ u ∈ statuses, u.severity ≤ s.severity := fun u hu => h.severity_le hu
  have hmem := h.mem
  obtain ⟨before, after, heq, hbefore, -⟩ := h
  refine List.find?_eq_some_iff_append.mpr
    ⟨by simpa using hbound, before, after, heq, fun t ht => ?_⟩
  simpa using ⟨s, hmem, hbefore t ht⟩

theorem unique (hs : IsFirstWorst statuses s) (ht : IsFirstWorst statuses t) : s = t :=
  Option.some.inj (hs.find?_eq_some.symm.trans ht.find?_eq_some)

/-- One status more is the worst if it is more severe than all before it. -/
theorem concat (h : IsFirstWorst statuses s) (t : HealthStatus) :
    IsFirstWorst (statuses ++ [t]) (worst s t) := by
  rcases Nat.lt_or_ge s.severity t.severity with hlt | hge
  · rw [worst_of_severity_lt hlt]
    exact ⟨statuses, [], rfl, fun u hu => Nat.lt_of_le_of_lt (h.severity_le hu) hlt,
      fun u hu => absurd hu List.not_mem_nil⟩
  · rw [worst_of_severity_le hge]
    obtain ⟨before, after, rfl, hbefore, hafter⟩ := h
    refine ⟨before, after ++ [t], by simp, hbefore, fun u hu => ?_⟩
    rcases List.mem_append.mp hu with hu | hu
    · exact hafter u hu
    · rw [List.mem_singleton.mp hu]
      exact hge

end IsFirstWorst

theorem isFirstWorst_worstOf {statuses : List HealthStatus} (h : statuses ≠ []) :
    IsFirstWorst statuses (worstOf statuses) := by
  induction statuses using List.reverseRecOn with
  | nil => exact absurd rfl h
  | append_singleton statuses t ih =>
    rw [worstOf_concat]
    cases statuses with
    | nil =>
      rw [worstOf_nil, healthy_worst]
      exact ⟨[], [], rfl, by simp, by simp⟩
    | cons s rest => exact (ih (List.cons_ne_nil s rest)).concat t

/-- The worst of a list is its first status of the greatest severity, and nothing is wrong where
there is none. -/
theorem worstOf_eq_iff (statuses : List HealthStatus) (s : HealthStatus) :
    worstOf statuses = s ↔ statuses = [] ∧ s = healthy ∨ IsFirstWorst statuses s := by
  constructor
  · rintro rfl
    by_cases hnil : statuses = []
    · exact .inl ⟨hnil, by rw [hnil, worstOf_nil]⟩
    · exact .inr (isFirstWorst_worstOf hnil)
  · rintro (⟨rfl, rfl⟩ | h)
    · rfl
    · exact (isFirstWorst_worstOf (List.ne_nil_of_mem h.mem)).unique h

-- the first of two errors stays
example : worstOf [.warning "slow", .error "down", .healthy, .error "full"] = .error "down" := by
  decide

end HealthStatus

/-! ## Resources that take their time -/

/-- A resource that is asked: the turns it had, and what it answered. -/
structure HealthProbe where
  turns : Nat
  answer? : Option HealthStatus

namespace HealthProbe

/-- A turn of a resource that has not answered; in its turn `k` it may say `answers k`. -/
def next (answers : Nat → Option HealthStatus) (p : HealthProbe) : HealthProbe :=
  if p.answer?.isSome then p else ⟨p.turns + 1, answers p.turns⟩

def after (answers : Nat → Option HealthStatus) : Nat → HealthProbe
  | 0 => ⟨0, none⟩
  | n + 1 => (after answers n).next answers

end HealthProbe

/-- What a resource says first in so many turns. -/
def firstAnswer? (answers : Nat → Option HealthStatus) (turns : Nat) : Option HealthStatus :=
  (List.range turns).findSome? answers

/-- Resources that are asked together and have turns in the order of a schedule, each by its
place. -/
def probed (answers : Nat → Nat → Option HealthStatus) (count : Nat) (schedule : List Nat) :
    List HealthProbe :=
  schedule.foldl (fun probes i => probes.modify i (HealthProbe.next (answers i)))
    (List.replicate count ⟨0, none⟩)

/-- The report, once everybody has answered. -/
def joined? : List String → List HealthProbe → Option (List (String × HealthStatus))
  | name :: names, p :: probes =>
    p.answer?.bind fun s => (joined? names probes).map ((name, s) :: ·)
  | _, _ => some []

/-- A resource that has not answered had all its turns. -/
theorem HealthProbe.after_eq (answers : Nat → Option HealthStatus) (n : Nat) :
    (after answers n).answer? = firstAnswer? answers n ∧
      ((after answers n).answer? = none → (after answers n).turns = n) := by
  induction n with
  | zero => exact ⟨rfl, fun _ => rfl⟩
  | succ n ih =>
    obtain ⟨hanswer, hturns⟩ := ih
    have hrange : firstAnswer? answers (n + 1) = (firstAnswer? answers n).or (answers n) := by
      simp [firstAnswer?, List.range_succ, List.findSome?_append]
    rw [after, next, hrange, ← hanswer]
    cases h : (after answers n).answer? with
    | some s => simp [h]
    | none => simp [hturns h]

theorem getElem?_probed (answers : Nat → Nat → Option HealthStatus) (count : Nat)
    (schedule : List Nat) (i : Nat) : (probed answers count schedule)[i]? =
      if i < count then some (HealthProbe.after (answers i) (schedule.count i)) else none := by
  induction schedule using List.reverseRecOn with
  | nil => simp [probed, List.getElem?_replicate, HealthProbe.after]
  | append_singleton schedule j ih =>
    have hstep : probed answers count (schedule ++ [j]) =
        (probed answers count schedule).modify j (HealthProbe.next (answers j)) := by
      simp [probed]
    rw [hstep, List.getElem?_modify, ih, List.count_append, List.count_singleton]
    by_cases hji : j = i
    · subst hji
      simp only [beq_self_eq_true, if_true, HealthProbe.after]
      split <;> rfl
    · simp [hji]

/-- What is known of a resource depends on how many turns it had, and not on those of others. -/
theorem probed_eq (answers : Nat → Nat → Option HealthStatus) (count : Nat) (schedule : List Nat) :
    probed answers count schedule =
      (List.range count).map fun i => HealthProbe.after (answers i) (schedule.count i) := by
  refine List.ext_getElem? fun i => ?_
  rw [getElem?_probed, List.getElem?_map]
  by_cases hi : i < count
  · rw [if_pos hi, List.getElem?_range hi]
    rfl
  · rw [if_neg hi, List.getElem?_eq_none (by simpa using hi)]
    rfl

/-- The report pairs the names in their order with what their resources answered, once all have. -/
theorem joined?_eq_some_iff {names : List String} {probes : List HealthProbe}
    (h : names.length = probes.length) (report : List (String × HealthStatus)) :
    joined? names probes = some report ↔ report.map Prod.fst = names ∧
      report.map (fun e => some e.2) = probes.map HealthProbe.answer? := by
  induction names generalizing probes report with
  | nil =>
    rw [List.length_nil, eq_comm, List.length_eq_zero_iff] at h
    subst h
    cases report <;> simp [joined?]
  | cons name names ih =>
    cases probes with
    | nil => cases h
    | cons p probes =>
      have hlength : names.length = probes.length := Nat.succ.inj h
      rw [joined?, List.map_cons]
      cases report with
      | nil => cases p.answer? <;> simp
      | cons e report =>
        obtain ⟨told, status⟩ := e
        cases p.answer? with
        | none => simp
        | some s => simp [ih hlength, and_assoc, and_left_comm, eq_comm]

/-! ## Reports -/

section Report

variable {α : Type} [HealthCheck α]

/-- The worst status that several resources report. -/
def worstReported (resources : List α) : HealthStatus :=
  .worstOf ((checkAll resources).map Prod.snd)

theorem names_checkAll (resources : List α) :
    (checkAll resources).map Prod.fst = resources.map HealthCheck.resourceName := by
  simp [checkAll]

theorem statuses_checkAll (resources : List α) :
    (checkAll resources).map Prod.snd = resources.map HealthCheck.health := by
  simp [checkAll]

theorem joined?_probed_eq_some_iff (resources : List α) (answers : Nat → Nat → Option HealthStatus)
    (schedule : List Nat) (report : List (String × HealthStatus)) :
    joined? (resources.map HealthCheck.resourceName) (probed answers resources.length schedule) =
        some report ↔
      report.map Prod.fst = resources.map HealthCheck.resourceName ∧
        report.map (fun e => some e.2) = (List.range resources.length).map fun i =>
          firstAnswer? (answers i) (schedule.count i) := by
  have hanswers : (probed answers resources.length schedule).map HealthProbe.answer? =
      (List.range resources.length).map fun i =>
        firstAnswer? (answers i) (schedule.count i) := by
    rw [probed_eq, List.map_map]
    exact List.map_congr_left fun i _ => (HealthProbe.after_eq (answers i) (schedule.count i)).1
  rw [joined?_eq_some_iff (by simp [probed_eq]), hanswers]

/-- What several resources report, and the worst of it. -/
structure AggregatesHealth (resources : List α) : Prop where
  /-- A report has one pair for each resource, in order. -/
  names : (checkAll resources).map Prod.fst = resources.map HealthCheck.resourceName
  statuses : (checkAll resources).map Prod.snd = resources.map HealthCheck.health
  /-- Resources that are asked together and take their time: there is a report as soon as each has
  answered, in whatever order they have their turns, and it pairs each name with what its resource
  says first. -/
  joined_iff : ∀ answers schedule report,
    joined? (resources.map HealthCheck.resourceName) (probed answers resources.length schedule) =
        some report ↔
      report.map Prod.fst = resources.map HealthCheck.resourceName ∧
        report.map (fun e => some e.2) = (List.range resources.length).map fun i =>
          firstAnswer? (answers i) (schedule.count i)
  joined_checkAll : ∀ answers schedule,
    (∀ i r, resources[i]? = some r →
      firstAnswer? (answers i) (schedule.count i) = some (HealthCheck.health r)) →
    joined? (resources.map HealthCheck.resourceName) (probed answers resources.length schedule) =
      some (checkAll resources)
  /-- The worst status reported is the first of the greatest severity, and nothing is wrong where
  nothing is reported. -/
  worst_iff : ∀ s, worstReported resources = s ↔ resources = [] ∧ s = .healthy ∨
    HealthStatus.IsFirstWorst ((checkAll resources).map Prod.snd) s
  assoc : ∀ a b c, HealthStatus.worst (.worst a b) c = .worst a (.worst b c)
  healthy_left : ∀ a, HealthStatus.worst .healthy a = a
  healthy_right : ∀ a, HealthStatus.worst a .healthy = a
  /-- The resources may be taken in two parts, or in any number of groups. -/
  split : ∀ left right, left ++ right = resources →
    worstReported resources = .worst (worstReported left) (worstReported right)
  regrouped : ∀ groups : List (List α), groups.flatten = resources →
    worstReported resources = .worstOf (groups.map worstReported)

theorem aggregates_health (resources : List α) : AggregatesHealth resources := by
  constructor
  case names => exact names_checkAll resources
  case statuses => exact statuses_checkAll resources
  case joined_iff => exact joined?_probed_eq_some_iff resources
  case joined_checkAll =>
    intro answers schedule hanswers
    rw [joined?_probed_eq_some_iff]
    refine ⟨names_checkAll resources, List.ext_getElem? fun i => ?_⟩
    rw [checkAll, List.map_map, List.getElem?_map, List.getElem?_map]
    cases hr : resources[i]? with
    | none =>
      have hi : resources.length ≤ i := List.getElem?_eq_none_iff.mp hr
      rw [List.getElem?_eq_none (by simpa using hi)]
      rfl
    | some r =>
      obtain ⟨hi, -⟩ := List.getElem?_eq_some_iff.mp hr
      rw [List.getElem?_range hi, Option.map_some, Option.map_some, hanswers i r hr]
      rfl
  case worst_iff =>
    intro s
    rw [worstReported, HealthStatus.worstOf_eq_iff, statuses_checkAll, List.map_eq_nil_iff]
  case assoc => exact HealthStatus.worst_assoc
  case healthy_left => exact HealthStatus.healthy_worst
  case healthy_right => exact HealthStatus.worst_healthy
  case split =>
    rintro left right rfl
    simp only [worstReported, statuses_checkAll, List.map_append, HealthStatus.worstOf_append]
  case regrouped =>
    rintro groups rfl
    rw [worstReported, statuses_checkAll, List.map_flatten, HealthStatus.worstOf_flatten,
      List.map_map]
    refine congrArg HealthStatus.worstOf (List.map_congr_left fun group _ => ?_)
    rw [worstReported, statuses_checkAll]
    rfl

-- the second resource answers first
example :
    joined? ["ready", "pending"]
      (probed (fun i k => if i = 0 then if k = 2 then some .healthy else none
        else some (.warning "missing")) 2 [0, 1, 0, 0]) =
      some [("ready", .healthy), ("pending", .warning "missing")] := by
  decide

end Report

end PlatformLink
