import Mathlib.Data.List.TakeWhile
import PlatformLink.Proofs.Text.Pieces
import PlatformLink.Text.Redaction

/-!
# Tokens in a text

A text holds a token when token characters stand in a row that is long enough to be one. A character
of another kind parts a text into two that can be looked at by themselves, which is how texts that
are put together from pieces are looked through here. What is redacted holds no token.
-/

namespace PlatformLink.Text

/-- Whether token characters stand in a row that is as long as a token. -/
def HoldsToken (cs : List Char) : Prop :=
  ∃ run, run <:+: cs ∧ tokenLength ≤ run.length ∧ ∀ c ∈ run, isTokenChar c = true

theorem not_holdsToken_of_length_lt {cs : List Char} (h : cs.length < tokenLength) :
    ¬HoldsToken cs := by
  rintro ⟨run, hrun, hlength, -⟩
  exact absurd (hlength.trans hrun.length_le) (Nat.not_le_of_lt h)

theorem not_holdsToken_nil : ¬HoldsToken [] :=
  not_holdsToken_of_length_lt (by decide)

theorem holdsToken_cons (c : Char) (cs : List Char) :
    HoldsToken (c :: cs) ↔
      tokenLength ≤ ((c :: cs).takeWhile isTokenChar).length ∨ HoldsToken cs := by
  constructor
  · rintro ⟨run, hrun, hlength, htoken⟩
    rcases List.infix_cons_iff.mp hrun with ⟨rest, hprefix⟩ | hinfix
    · left
      rw [← hprefix, List.takeWhile_append_of_pos htoken, List.length_append]
      exact hlength.trans (Nat.le_add_right _ _)
    · exact Or.inr ⟨run, hinfix, hlength, htoken⟩
  · rintro (hlength | ⟨run, hinfix, hlength, htoken⟩)
    · exact ⟨_, (List.takeWhile_prefix isTokenChar).isInfix, hlength,
        fun d hd => List.mem_takeWhile_imp hd⟩
    · exact ⟨run, List.infix_cons hinfix, hlength, htoken⟩

/-- Looks at the row of token characters that begins at each place. -/
def holdsToken : List Char → Bool
  | [] => false
  | c :: cs => decide (tokenLength ≤ ((c :: cs).takeWhile isTokenChar).length) || holdsToken cs

theorem holdsToken_eq_true_iff (cs : List Char) : holdsToken cs = true ↔ HoldsToken cs := by
  induction cs with
  | nil => simp [holdsToken, not_holdsToken_nil]
  | cons c cs ih =>
    rw [holdsToken_cons, holdsToken, Bool.or_eq_true, decide_eq_true_eq, ih]

instance (cs : List Char) : Decidable (HoldsToken cs) :=
  decidable_of_iff _ (holdsToken_eq_true_iff cs)

/-- No token reaches over a character of another kind. -/
theorem holdsToken_append_cons {c : Char} (hc : isTokenChar c = false) (a b : List Char) :
    HoldsToken (a ++ c :: b) ↔ HoldsToken a ∨ HoldsToken b := by
  induction a with
  | nil =>
    have hnil : ¬tokenLength ≤ ((c :: b).takeWhile isTokenChar).length := by
      rw [List.takeWhile_cons_of_neg (by simp [hc])]
      decide
    rw [List.nil_append, holdsToken_cons, or_iff_right hnil, or_iff_right not_holdsToken_nil]
  | cons d a ih =>
    have hrow := takeWhile_append_cons hc (d :: a) b
    rw [List.cons_append] at hrow
    rw [List.cons_append, holdsToken_cons, hrow, ih, holdsToken_cons, or_assoc]

/-- Whether a text ends with a character that no token goes on after. -/
def closes (s : String) : Bool :=
  s.toList.getLast?.all fun c => !isTokenChar c

/-- Whether a text begins with a character that no token reaches. -/
def opens (s : String) : Bool :=
  s.toList.head?.all fun c => !isTokenChar c

theorem holdsToken_append_of_closes {a : String} (h : closes a = true) (b : String) :
    HoldsToken (a ++ b).toList ↔ HoldsToken a.toList ∨ HoldsToken b.toList := by
  rw [String.toList_append]
  rw [closes] at h
  rcases List.eq_nil_or_concat a.toList with hnil | ⟨init, c, hconcat⟩
  · rw [hnil, List.nil_append, or_iff_right not_holdsToken_nil]
  · rw [List.concat_eq_append] at hconcat
    have hc : isTokenChar c = false := by
      rw [hconcat, List.getLast?_concat] at h
      simpa using h
    rw [hconcat, List.append_assoc, List.singleton_append, holdsToken_append_cons hc,
      holdsToken_append_cons hc, or_iff_left not_holdsToken_nil]

theorem holdsToken_append_of_opens (a : String) {b : String} (h : opens b = true) :
    HoldsToken (a ++ b).toList ↔ HoldsToken a.toList ∨ HoldsToken b.toList := by
  rw [String.toList_append]
  rw [opens] at h
  cases hb : b.toList with
  | nil => rw [List.append_nil, or_iff_left not_holdsToken_nil]
  | cons c rest =>
    have hc : isTokenChar c = false := by
      rw [hb, List.head?_cons] at h
      simpa using h
    have hrest : HoldsToken (c :: rest) ↔ HoldsToken rest := by
      rw [← List.nil_append (c :: rest), holdsToken_append_cons hc,
        or_iff_right not_holdsToken_nil]
    rw [holdsToken_append_cons hc, hrest]

theorem opens_append {a : String} (h : a.toList ≠ []) (b : String) :
    opens (a ++ b) = opens a := by
  obtain ⟨c, cs, hcons⟩ := List.exists_cons_of_ne_nil h
  rw [opens, opens, String.toList_append, hcons, List.cons_append, List.head?_cons,
    List.head?_cons]

theorem closes_append (a : String) {b : String} (h : b.toList ≠ []) :
    closes (a ++ b) = closes b := by
  obtain ⟨init, c, hconcat⟩ := (List.eq_nil_or_concat b.toList).resolve_left h
  rw [closes, closes, String.toList_append, hconcat, List.concat_eq_append, ← List.append_assoc,
    List.getLast?_concat, List.getLast?_concat]

/-- What is written for a run holds no token. -/
theorem not_holdsToken_redactedRun (run : List Char) : ¬HoldsToken (redactedRun run).reverse := by
  unfold redactedRun
  split
  next => decide
  next h =>
    refine not_holdsToken_of_length_lt ?_
    rw [List.length_reverse]
    exact Nat.lt_of_not_le h

theorem not_holdsToken_redactOnto (run cs : List Char) : ¬HoldsToken (redactOnto [] run cs) := by
  induction cs generalizing run with
  | nil =>
    rw [redactOnto, List.append_nil]
    exact not_holdsToken_redactedRun run
  | cons c cs ih =>
    by_cases h : isTokenChar c = true
    · rw [redactOnto, if_pos h]
      exact ih (c :: run)
    · rw [redactOnto, if_neg h, redactOnto_eq, List.append_nil, List.reverse_cons,
        List.append_assoc, List.singleton_append,
        holdsToken_append_cons (Bool.eq_false_iff.mpr h)]
      exact not_or.mpr ⟨not_holdsToken_redactedRun run, ih []⟩

/-- A redacted text holds no token. -/
theorem not_holdsToken_redact (s : String) : ¬HoldsToken (redact s).toList := by
  rw [redact, String.toList_ofList]
  exact not_holdsToken_redactOnto [] s.toList

end PlatformLink.Text
