import PlatformLink.Json.Error
import PlatformLink.Proofs.Decimal.TextLength
import PlatformLink.Proofs.Text.Token

/-!
# What errors repeat of their input

The message of a decode error is made of fixed words, of numbers and of texts that stood in the
input: the name of a variant that is not known, and a string that stood where something else was
expected. Words and numbers are too short to be tokens, so a message holds a token exactly where a
text that it repeats holds one. Such an error is called candid here.
-/

namespace PlatformLink

open Text (HoldsToken)

/-! ## Numbers -/

theorem not_holdsToken_nat {n : Nat} (h : n < 10 ^ 20) : ¬HoldsToken (toString n).toList := by
  refine Text.not_holdsToken_of_length_lt ?_
  have hlength := Decimal.length_toString_le (by decide) h
  rw [String.length_toList]
  exact Nat.lt_of_le_of_lt hlength (by decide)

theorem not_holdsToken_int {n : Int} (h : n.natAbs < 10 ^ 20) :
    ¬HoldsToken (toString n).toList := by
  refine Text.not_holdsToken_of_length_lt ?_
  have hlength := Decimal.length_toString_le (by decide) h
  have hsign : (toString n).length ≤ (toString n.natAbs).length + 1 := by
    cases n with
    | ofNat k => exact Nat.le_succ _
    | negSucc k =>
      change ("-" ++ toString (k + 1)).length ≤ (toString (k + 1)).length + 1
      rw [String.length_append, (by decide : "-".length = 1)]
      omega
  rw [String.length_toList, Text.tokenLength]
  omega

namespace Json

/-! ## Values that were found -/

/-- What the wording of a value repeats of the input. -/
def Found.quoted? : Found → Option String
  | .str s => some (Text.quoted s)
  | _ => none

/-- The wording of a value holds a token only in what it repeats. -/
def Found.Candid (f : Found) : Prop :=
  HoldsToken f.message.toList ↔ ∃ q, f.quoted? = some q ∧ HoldsToken q.toList

theorem Found.candid_of_not_holdsToken {f : Found} (h : ¬HoldsToken f.message.toList)
    (hquoted : f.quoted? = none) : f.Candid := by
  refine iff_of_false h ?_
  rintro ⟨q, hq, -⟩
  rw [hquoted] at hq
  cases hq

theorem Found.candid_str (s : String) : (Found.str s).Candid := by
  have hmessage : HoldsToken ("string " ++ Text.quoted s).toList ↔
      HoldsToken (Text.quoted s).toList := by
    rw [Text.holdsToken_append_of_closes (by decide), or_iff_right (by decide)]
  exact hmessage.trans ⟨fun h => ⟨_, rfl, h⟩, fun ⟨_, hq, h⟩ => Option.some.inj hq ▸ h⟩

/-- A text between words, of which the first closes and the last opens. -/
theorem not_holdsToken_between {before text after : String} (hcloses : Text.closes before = true)
    (hopens : Text.opens after = true) (hbefore : ¬HoldsToken before.toList)
    (htext : ¬HoldsToken text.toList) (hafter : ¬HoldsToken after.toList) :
    ¬HoldsToken (before ++ text ++ after).toList := by
  rw [Text.holdsToken_append_of_opens _ hopens, Text.holdsToken_append_of_closes hcloses]
  exact not_or.mpr ⟨not_or.mpr ⟨hbefore, htext⟩, hafter⟩

theorem Found.candid_bool (b : Bool) : (Found.bool b).Candid := by
  have hmessage : ¬HoldsToken ("boolean `" ++ (if b then "true" else "false") ++ "`").toList :=
    not_holdsToken_between (by decide) (by decide) (by decide) (by cases b <;> decide) (by decide)
  exact candid_of_not_holdsToken hmessage rfl

theorem Found.candid_whole {n : Int} (h : leastWhole ≤ n ∧ n ≤ greatestWhole) :
    (Found.whole n).Candid := by
  have hn : n.natAbs < 10 ^ 20 := by
    rw [leastWhole, greatestWhole] at h
    omega
  have hmessage : ¬HoldsToken ("integer `" ++ toString n ++ "`").toList :=
    not_holdsToken_between (by decide) (by decide) (by decide) (not_holdsToken_int hn) (by decide)
  exact candid_of_not_holdsToken hmessage rfl

theorem Found.candid_real {x : Decimal.Binary64} (h : x.Bounded) : (Found.real x).Candid := by
  have hx : ¬HoldsToken x.text.toList := by
    refine Text.not_holdsToken_of_length_lt ?_
    rw [String.length_toList]
    exact Decimal.Binary64.length_text_lt h
  have hmessage : ¬HoldsToken ("floating point `" ++ x.text ++ "`").toList :=
    not_holdsToken_between (by decide) (by decide) (by decide) hx (by decide)
  exact candid_of_not_holdsToken hmessage rfl

theorem Found.candid_null : Found.null.Candid :=
  candid_of_not_holdsToken (by decide) rfl

theorem Found.candid_sequence : Found.sequence.Candid :=
  candid_of_not_holdsToken (by decide) rfl

theorem Found.candid_map : Found.map.Candid :=
  candid_of_not_holdsToken (by decide) rfl

/-! ## Errors -/

namespace DecodeError

/-- What the message of an error repeats of the input. -/
def quoted? : DecodeError → Option String
  | .wrongType f _ | .wrongValue f _ => f.quoted?
  | .unknownVariant name _ => some name
  | _ => none

def QuotesToken (d : DecodeError) : Prop :=
  ∃ q, d.quoted? = some q ∧ HoldsToken q.toList

/-- The message of an error holds a token only in what it repeats. -/
def Candid (d : DecodeError) : Prop :=
  HoldsToken d.message.toList ↔ d.QuotesToken

theorem candid_of_not_holdsToken {d : DecodeError} (h : ¬HoldsToken d.message.toList)
    (hquoted : d.quoted? = none) : d.Candid := by
  refine iff_of_false h ?_
  rintro ⟨q, hq, -⟩
  rw [hquoted] at hq
  cases hq

theorem candid_malformed (m : Malformation) : (malformed m).Candid :=
  candid_of_not_holdsToken (by cases m <;> decide) rfl

/-- A complaint about a text, in favour of what was expected. -/
theorem holdsToken_complaint {complaint text expected : String}
    (hcloses : Text.closes complaint = true) (hcomplaint : ¬HoldsToken complaint.toList)
    (hexpected : ¬HoldsToken expected.toList) :
    HoldsToken (complaint ++ text ++ ", expected " ++ expected).toList ↔
      HoldsToken text.toList := by
  have hopens : Text.opens (", expected " ++ expected) = true := by
    rw [Text.opens_append (by decide)]
    decide
  have hrest : ¬HoldsToken (", expected " ++ expected).toList := by
    rw [Text.holdsToken_append_of_closes (by decide)]
    exact not_or.mpr ⟨by decide, hexpected⟩
  rw [String.append_assoc, Text.holdsToken_append_of_opens _ hopens,
    Text.holdsToken_append_of_closes hcloses, or_iff_left hrest, or_iff_right hcomplaint]

theorem candid_wrongType {f : Found} {expected : String} (hf : f.Candid)
    (hexpected : ¬HoldsToken expected.toList) : (wrongType f expected).Candid := by
  have hmessage : HoldsToken (wrongType f expected).message.toList ↔ HoldsToken f.message.toList :=
    holdsToken_complaint (by decide) (by decide) hexpected
  exact hmessage.trans hf

theorem candid_wrongValue {f : Found} {expected : String} (hf : f.Candid)
    (hexpected : ¬HoldsToken expected.toList) : (wrongValue f expected).Candid := by
  have hmessage : HoldsToken (wrongValue f expected).message.toList ↔
      HoldsToken f.message.toList :=
    holdsToken_complaint (by decide) (by decide) hexpected
  exact hmessage.trans hf

theorem candid_wrongLength {n : Nat} {expected : String} (hn : n < 10 ^ 20)
    (hexpected : ¬HoldsToken expected.toList) : (wrongLength n expected).Candid := by
  have hmessage : HoldsToken (wrongLength n expected).message.toList ↔
      HoldsToken (toString n).toList :=
    holdsToken_complaint (by decide) (by decide) hexpected
  exact candid_of_not_holdsToken (mt hmessage.mp (not_holdsToken_nat hn)) rfl

theorem not_holdsToken_backquoted {text : String} (h : ¬HoldsToken text.toList) :
    ¬HoldsToken ("`" ++ text ++ "`").toList :=
  not_holdsToken_between (by decide) (by decide) (by decide) h (by decide)

theorem not_holdsToken_commas {names : List String}
    (h : ∀ n ∈ names, ¬HoldsToken n.toList) : ¬HoldsToken (", ".intercalate names).toList := by
  induction names with
  | nil =>
    rw [String.intercalate_nil]
    decide
  | cons n names ih =>
    have hn := h n List.mem_cons_self
    have hrest := ih fun m hm => h m (List.mem_cons_of_mem n hm)
    cases names with
    | nil =>
      rw [String.intercalate_singleton]
      exact hn
    | cons m names =>
      have hopens : Text.opens (", " ++ ", ".intercalate (m :: names)) = true := by
        rw [Text.opens_append (by decide)]
        decide
      rw [String.intercalate_cons_cons, String.append_assoc,
        Text.holdsToken_append_of_opens _ hopens, Text.holdsToken_append_of_closes (by decide)]
      exact not_or.mpr ⟨hn, not_or.mpr ⟨by decide, hrest⟩⟩

/-- The choice among names holds a token only in a name. -/
theorem not_holdsToken_oneOf {names : List String} (h : ∀ n ∈ names, ¬HoldsToken n.toList) :
    ¬HoldsToken (oneOf names).toList := by
  unfold oneOf
  split
  next => decide
  next a =>
    exact not_holdsToken_between (by decide) (by decide) (by decide) (h a (by simp)) (by decide)
  next a b =>
    have hfirst : ¬HoldsToken ("expected `" ++ a ++ "` or `").toList :=
      not_holdsToken_between (by decide) (by decide) (by decide) (h a (by simp)) (by decide)
    have hsecond : ¬HoldsToken (b ++ "`").toList := by
      rw [Text.holdsToken_append_of_opens _ (by decide)]
      exact not_or.mpr ⟨h b (by simp), by decide⟩
    have hcloses : Text.closes ("expected `" ++ a ++ "` or `") = true := by
      rw [Text.closes_append _ (by decide)]
      decide
    rw [String.append_assoc, Text.holdsToken_append_of_closes hcloses]
    exact not_or.mpr ⟨hfirst, hsecond⟩
  next =>
    rw [Text.holdsToken_append_of_closes (by decide)]
    refine not_or.mpr ⟨by decide, not_holdsToken_commas ?_⟩
    intro n hn
    obtain ⟨m, hm, rfl⟩ := List.mem_map.mp hn
    exact not_holdsToken_backquoted (h m hm)

theorem candid_unknownVariant {name : String} {known : List String}
    (h : ∀ n ∈ known, ¬HoldsToken n.toList) : (unknownVariant name known).Candid := by
  have hopens : Text.opens ("`, " ++ oneOf known) = true := by
    rw [Text.opens_append (by decide)]
    decide
  have hrest : ¬HoldsToken ("`, " ++ oneOf known).toList := by
    rw [Text.holdsToken_append_of_closes (by decide)]
    exact not_or.mpr ⟨by decide, not_holdsToken_oneOf h⟩
  have hmessage : HoldsToken ("unknown variant `" ++ name ++ "`, " ++ oneOf known).toList ↔
      HoldsToken name.toList := by
    rw [String.append_assoc, Text.holdsToken_append_of_opens _ hopens,
      Text.holdsToken_append_of_closes (by decide), or_iff_left hrest, or_iff_right (by decide)]
  exact hmessage.trans ⟨fun h => ⟨name, rfl, h⟩, fun ⟨_, hq, h⟩ => Option.some.inj hq ▸ h⟩

theorem candid_missingField {name : String} (h : ¬HoldsToken name.toList) :
    (missingField name).Candid := by
  have hmessage : ¬HoldsToken ("missing field `" ++ name ++ "`").toList :=
    not_holdsToken_between (by decide) (by decide) (by decide) h (by decide)
  exact candid_of_not_holdsToken hmessage rfl

theorem candid_duplicateField {name : String} (h : ¬HoldsToken name.toList) :
    (duplicateField name).Candid := by
  have hmessage : ¬HoldsToken ("duplicate field `" ++ name ++ "`").toList :=
    not_holdsToken_between (by decide) (by decide) (by decide) h (by decide)
  exact candid_of_not_holdsToken hmessage rfl

end DecodeError

end Json

end PlatformLink
