import PlatformLink.Proofs.Text.Token

/-!
# Runs of token characters

A text is taken apart at its other characters: a run of token characters, and then each other
character with the run behind it. A run may be empty, and none can be made longer, since another
character or the end of the text stands behind it; so there is one way to take a text apart.
Redaction looks at each run by itself. It replaces those that are as long as a token, and nothing
else is touched.
-/

namespace PlatformLink.Text

theorem isTokenChar_iff (c : Char) :
    isTokenChar c = true ↔
      ('A' ≤ c ∧ c ≤ 'Z') ∨ ('a' ≤ c ∧ c ≤ 'z') ∨ ('0' ≤ c ∧ c ≤ '9') ∨
        c = '_' ∨ c = '.' ∨ c = '-' := by
  have hupper : c.isUpper = true ↔ 'A' ≤ c ∧ c ≤ 'Z' := decide_eq_true_iff
  have hlower : c.isLower = true ↔ 'a' ≤ c ∧ c ≤ 'z' :=
    (Bool.and_eq_true_iff ..).trans (and_congr decide_eq_true_iff decide_eq_true_iff)
  have hdigit : c.isDigit = true ↔ '0' ≤ c ∧ c ≤ '9' :=
    (Bool.and_eq_true_iff ..).trans (and_congr decide_eq_true_iff decide_eq_true_iff)
  have hkinds : isTokenChar c =
      (((((c.isUpper || c.isLower) || c.isDigit) || c == '_') || c == '.') || c == '-') := rfl
  simp only [hkinds, Bool.or_eq_true, hupper, hlower, hdigit, beq_iff_eq, or_assoc]

/-- A run, and the other characters behind it, each with the run that follows it. -/
@[ext]
structure Runs where
  first : List Char
  rest : List (Char × List Char)
  first_token : ∀ c ∈ first, isTokenChar c = true
  rest_parted : ∀ p ∈ rest, isTokenChar p.1 = false ∧ ∀ c ∈ p.2, isTokenChar c = true

namespace Runs

/-- The text in which `f` writes each run. -/
def written (f : List Char → List Char) (r : Runs) : List Char :=
  f r.first ++ r.rest.flatMap fun p => p.1 :: f p.2

/-- The text that was taken apart. -/
def chars (r : Runs) : List Char :=
  r.written id

def nil : Runs := ⟨[], [], by simp, by simp⟩

/-- A character before a text makes its first run longer, or stands before it. -/
def cons (c : Char) (r : Runs) : Runs :=
  if h : isTokenChar c = true then
    ⟨c :: r.first, r.rest, List.forall_mem_cons.mpr ⟨h, r.first_token⟩, r.rest_parted⟩
  else
    ⟨[], (c, r.first) :: r.rest, by simp,
      List.forall_mem_cons.mpr ⟨⟨Bool.eq_false_iff.mpr h, r.first_token⟩, r.rest_parted⟩⟩

theorem cons_of_token {c : Char} (h : isTokenChar c = true) (r : Runs) :
    (cons c r).first = c :: r.first ∧ (cons c r).rest = r.rest := by
  simp [cons, h]

theorem cons_of_not_token {c : Char} (h : isTokenChar c = false) (r : Runs) :
    (cons c r).first = [] ∧ (cons c r).rest = (c, r.first) :: r.rest := by
  simp [cons, h]

theorem chars_cons (c : Char) (r : Runs) : (cons c r).chars = c :: r.chars := by
  cases h : isTokenChar c with
  | true =>
    obtain ⟨hfirst, hrest⟩ := cons_of_token h r
    simp [chars, written, hfirst, hrest]
  | false =>
    obtain ⟨hfirst, hrest⟩ := cons_of_not_token h r
    simp [chars, written, hfirst, hrest]

/-- The runs of a text. -/
def of (cs : List Char) : Runs :=
  cs.foldr cons nil

theorem of_cons (c : Char) (cs : List Char) : of (c :: cs) = cons c (of cs) := rfl

theorem chars_of (cs : List Char) : (of cs).chars = cs := by
  induction cs with
  | nil => rfl
  | cons c cs ih => rw [of_cons, chars_cons, ih]

/-- Token characters before a text belong to its first run. -/
theorem of_append_of_token {run : List Char} (h : ∀ c ∈ run, isTokenChar c = true)
    (cs : List Char) :
    (of (run ++ cs)).first = run ++ (of cs).first ∧ (of (run ++ cs)).rest = (of cs).rest := by
  induction run with
  | nil => exact ⟨rfl, rfl⟩
  | cons c run ih =>
    obtain ⟨hc, hrun⟩ := List.forall_mem_cons.mp h
    obtain ⟨hfirst, hrest⟩ := cons_of_token hc (of (run ++ cs))
    obtain ⟨ihfirst, ihrest⟩ := ih hrun
    rw [List.cons_append, of_cons, hfirst, hrest, ihfirst, ihrest]
    exact ⟨rfl, rfl⟩

theorem of_flatMap {rest : List (Char × List Char)}
    (h : ∀ p ∈ rest, isTokenChar p.1 = false ∧ ∀ c ∈ p.2, isTokenChar c = true) :
    (of (rest.flatMap fun p => p.1 :: p.2)).first = [] ∧
      (of (rest.flatMap fun p => p.1 :: p.2)).rest = rest := by
  induction rest with
  | nil => exact ⟨rfl, rfl⟩
  | cons p rest ih =>
    obtain ⟨⟨hc, hrun⟩, hparted⟩ := List.forall_mem_cons.mp h
    obtain ⟨ihfirst, ihrest⟩ := ih hparted
    obtain ⟨hbehind, hbehindRest⟩ :=
      of_append_of_token hrun (rest.flatMap fun p => p.1 :: p.2)
    obtain ⟨hfirst, hrest⟩ :=
      cons_of_not_token hc (of (p.2 ++ rest.flatMap fun p => p.1 :: p.2))
    rw [List.flatMap_cons, List.cons_append, of_cons, hfirst, hrest, hbehind, hbehindRest, ihfirst,
      ihrest, List.append_nil]
    exact ⟨rfl, rfl⟩

/-- There is one way to take a text apart. -/
theorem of_chars (r : Runs) : of r.chars = r := by
  obtain ⟨hfirst, hrest⟩ := of_append_of_token r.first_token (r.rest.flatMap fun p => p.1 :: p.2)
  obtain ⟨hnone, hparts⟩ := of_flatMap r.rest_parted
  rw [hnone, List.append_nil] at hfirst
  exact Runs.ext hfirst (hrest.trans hparts)

end Runs

/-! ## Redaction by runs -/

/-- What is left of a run. -/
def redacted (run : List Char) : List Char :=
  if 32 ≤ run.length then "[REDACTED]".toList else run

theorem redactedRun_eq (run : List Char) : redactedRun run = (redacted run.reverse).reverse := by
  have hlength : run.reverse.length = run.length := List.length_reverse
  by_cases h : 32 ≤ run.length
  · have hlong : redactedRun run = "[REDACTED]".toList.reverse := if_pos h
    rw [hlong, redacted, if_pos (hlength ▸ h)]
  · have hshort : redactedRun run = run := if_neg h
    rw [hshort, redacted, if_neg (hlength ▸ h), List.reverse_reverse]

/-- With a run left open, what comes next belongs to it. -/
theorem redactOnto_runs (run cs : List Char) :
    redactOnto [] run cs = redacted (run.reverse ++ (Runs.of cs).first) ++
      (Runs.of cs).rest.flatMap fun p => p.1 :: redacted p.2 := by
  induction cs generalizing run with
  | nil => simp [redactOnto, redactedRun_eq, Runs.of, Runs.nil]
  | cons c cs ih =>
    cases h : isTokenChar c with
    | true =>
      obtain ⟨hfirst, hrest⟩ := Runs.cons_of_token h (Runs.of cs)
      rw [redactOnto, if_pos h, ih, Runs.of_cons, hfirst, hrest]
      simp
    | false =>
      obtain ⟨hfirst, hrest⟩ := Runs.cons_of_not_token h (Runs.of cs)
      rw [redactOnto, if_neg (by simp [h]), redactOnto_eq, ih, Runs.of_cons, hfirst, hrest]
      simp [redactedRun_eq]

theorem toList_redact (s : String) : (redact s).toList = (Runs.of s.toList).written redacted := by
  rw [redact, String.toList_ofList, redactOnto_runs]
  rfl

theorem redacted_eq_self {run : List Char} (hrun : ∀ c ∈ run, isTokenChar c = true)
    (h : ¬HoldsToken run) : redacted run = run :=
  if_neg fun hlength => h ⟨run, List.infix_refl run, hlength, hrun⟩

theorem HoldsToken.of_infix {cs ds : List Char} (h : HoldsToken cs) (hwithin : cs <:+: ds) :
    HoldsToken ds := by
  obtain ⟨run, hrun, hlength, htoken⟩ := h
  exact ⟨run, hrun.trans hwithin, hlength, htoken⟩

theorem Runs.infix_chars_of_mem {r : Runs} {p : Char × List Char} (hp : p ∈ r.rest) :
    p.2 <:+: r.chars := by
  have hpiece : p.1 :: p.2 <:+: r.rest.flatMap fun p => p.1 :: p.2 :=
    List.infix_of_mem_flatten (List.mem_map_of_mem hp)
  exact (List.suffix_cons p.1 p.2).isInfix.trans
    (hpiece.trans (List.suffix_append r.first _).isInfix)

/-- Where no token is held each run is too short to be one. -/
theorem Runs.written_redacted_of_not_holdsToken {r : Runs} (h : ¬HoldsToken r.chars) :
    r.written redacted = r.chars := by
  have hfirst : redacted r.first = r.first :=
    redacted_eq_self r.first_token fun htoken =>
      h (htoken.of_infix (List.prefix_append r.first _).isInfix)
  have hrest : (r.rest.map fun p => p.1 :: redacted p.2) = r.rest.map fun p => p.1 :: p.2 := by
    refine List.map_congr_left fun p hp => ?_
    rw [redacted_eq_self (r.rest_parted p hp).2 fun htoken =>
      h (htoken.of_infix (infix_chars_of_mem hp))]
  rw [written, hfirst, List.flatMap_def, hrest]
  rfl

/-- A text is left as it is just where it holds no token. -/
theorem redact_eq_self_iff (s : String) : redact s = s ↔ ¬HoldsToken s.toList := by
  constructor
  · intro h
    rw [← h]
    exact not_holdsToken_redact s
  · intro h
    rw [← Runs.chars_of s.toList] at h
    rw [← String.toList_inj, toList_redact, Runs.written_redacted_of_not_holdsToken h,
      Runs.chars_of]

theorem redactOnto_append_cons {c : Char} (hc : isTokenChar c = false) (run a b : List Char) :
    redactOnto [] run (a ++ c :: b) = redactOnto [] run a ++ c :: redactOnto [] [] b := by
  induction a generalizing run with
  | nil =>
    have hnext : redactOnto [] run (c :: b) = redactOnto (c :: (redactedRun run ++ [])) [] b :=
      if_neg (by simp [hc])
    rw [List.nil_append, hnext, redactOnto_eq, redactOnto]
    simp
  | cons d a ih =>
    have hnext (rest : List Char) : redactOnto [] run (d :: rest) =
        if isTokenChar d then redactOnto [] (d :: run) rest
        else redactOnto (d :: (redactedRun run ++ [])) [] rest := rfl
    rw [List.cons_append, hnext, hnext]
    split
    · exact ih (d :: run)
    · rw [redactOnto_eq, redactOnto_eq (d :: (redactedRun run ++ [])), ih, List.append_assoc]

/-- Across a character of another kind texts are redacted one by one. -/
theorem redact_append_singleton_append {c : Char} (hc : isTokenChar c = false) (a b : String) :
    redact (a ++ String.singleton c ++ b) = redact a ++ String.singleton c ++ redact b := by
  rw [← String.toList_inj]
  simp [redact, redactOnto_append_cons hc]

/-- What redaction makes of a text. -/
structure RedactsRuns (s : String) : Prop where
  /-- A run is made of letters, digits, underscores, points and hyphens. -/
  token : ∀ c, isTokenChar c = true ↔
    ('A' ≤ c ∧ c ≤ 'Z') ∨ ('a' ≤ c ∧ c ≤ 'z') ∨ ('0' ≤ c ∧ c ≤ '9') ∨ c = '_' ∨ c = '.' ∨ c = '-'
  /-- The text is taken apart at its runs in one way. -/
  parted : ∃! r : Runs, r.chars = s.toList
  /-- Each run is replaced if it is long and stays otherwise, and so does every other character. -/
  written : ∀ r : Runs, r.chars = s.toList → (redact s).toList = r.written redacted
  /-- No long run is left. -/
  short : ∀ run, run <:+: (redact s).toList → (∀ c ∈ run, isTokenChar c = true) → run.length < 32
  again : redact (redact s) = redact s
  apart : ∀ (a b : String) (c : Char), isTokenChar c = false → s = a ++ String.singleton c ++ b →
    redact s = redact a ++ String.singleton c ++ redact b

/-- Redaction replaces the runs of at least 32 characters, and nothing else. -/
theorem redacts_long_runs (s : String) : RedactsRuns s := by
  constructor
  case token => exact isTokenChar_iff
  case parted => exact ⟨Runs.of s.toList, Runs.chars_of _, fun r hr => by rw [← hr, Runs.of_chars]⟩
  case written =>
    intro r hr
    rw [toList_redact, ← hr, Runs.of_chars]
  case short =>
    intro run hrun htoken
    refine Nat.lt_of_not_le fun hlength => ?_
    exact not_holdsToken_redact s ⟨run, hrun, hlength, htoken⟩
  case again => exact (redact_eq_self_iff _).mpr (not_holdsToken_redact s)
  case apart =>
    rintro a b c hc rfl
    exact redact_append_singleton_append hc a b

example : redact "id 0123456789abcdef0123456789ABCDEF/0123456789abcdef0123456789ABCDE é" =
    "id [REDACTED]/0123456789abcdef0123456789ABCDE é" := by
  decide +kernel

end PlatformLink.Text
