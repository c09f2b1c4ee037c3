import Mathlib.Data.List.TakeWhile
import Mathlib.Data.String.Basic
import Mathlib.Tactic.IntervalCases
import PlatformLink.Text.Blank

/-!
# Trimming and case

Blanks at both ends of a text do not matter to what is left of it, and neither letters that are made
small nor small ones are blank. So it does not matter whether a text is trimmed before or after its
letters are made small.
-/

namespace PlatformLink.Text

section TrimBoth

variable {drop : Char → Bool}

theorem trimBoth_eq_nil_iff (cs : List Char) : trimBoth drop cs = [] ↔ ∀ c ∈ cs, drop c = true := by
  rw [trimBoth, List.reverse_eq_nil_iff, List.dropWhile_eq_nil_iff]
  simp only [List.mem_reverse]
  constructor
  · intro h
    by_contra hall
    have hne : cs.dropWhile drop ≠ [] := mt List.dropWhile_eq_nil_iff.mp hall
    have hhead := List.head_dropWhile_not drop hne
    rw [h _ (List.head_mem hne)] at hhead
    cases hhead
  · intro h c hc
    exact h c ((List.dropWhile_sublist drop).subset hc)

theorem trimBoth_map {f : Char → Char} (h : ∀ c, drop (f c) = drop c) (cs : List Char) :
    trimBoth drop (cs.map f) = (trimBoth drop cs).map f := by
  have hcomp : drop ∘ f = drop := funext h
  rw [trimBoth, trimBoth, List.dropWhile_map, hcomp, ← List.map_reverse, List.dropWhile_map, hcomp,
    List.map_reverse]

theorem trimBoth_pad {left right : List Char} (hleft : ∀ c ∈ left, drop c = true)
    (hright : ∀ c ∈ right, drop c = true) (cs : List Char) :
    trimBoth drop (left ++ cs ++ right) = trimBoth drop cs := by
  have hreverse : ∀ c ∈ right.reverse, drop c = true := by simpa using hright
  rw [trimBoth, List.append_assoc, List.dropWhile_append_of_pos hleft, List.dropWhile_append]
  split
  next hempty =>
    have hnone : cs.dropWhile drop = [] := List.isEmpty_iff.mp hempty
    rw [trimBoth, hnone, List.dropWhile_eq_nil_iff.mpr hright]
  next => rw [trimBoth, List.reverse_append, List.dropWhile_append_of_pos hreverse]

/-- What is trimmed away is dropped, and nothing else is. -/
theorem exists_eq_append_trimBoth (drop : Char → Bool) (cs : List Char) :
    ∃ left right, cs = left ++ trimBoth drop cs ++ right ∧ (∀ c ∈ left, drop c = true) ∧
      ∀ c ∈ right, drop c = true := by
  have hfront : cs.takeWhile drop ++ cs.dropWhile drop = cs := List.takeWhile_append_dropWhile
  have hback : trimBoth drop cs ++ ((cs.dropWhile drop).reverse.takeWhile drop).reverse =
      cs.dropWhile drop := by
    rw [trimBoth, ← List.reverse_append, List.takeWhile_append_dropWhile, List.reverse_reverse]
  refine ⟨cs.takeWhile drop, ((cs.dropWhile drop).reverse.takeWhile drop).reverse, ?_, ?_, ?_⟩
  · rw [List.append_assoc, hback, hfront]
  · intro c hc
    exact List.mem_takeWhile_imp hc
  · intro c hc
    exact List.mem_takeWhile_imp (List.mem_reverse.mp hc)

theorem dropWhile_eq_self {cs : List Char} (h : ∀ c ∈ cs, drop c = false) :
    cs.dropWhile drop = cs := by
  rw [List.dropWhile_eq_self_iff]
  intro hne
  rw [h _ (List.getElem_mem hne)]
  exact Bool.false_ne_true

theorem trimBoth_eq_self {cs : List Char} (h : ∀ c ∈ cs, drop c = false) :
    trimBoth drop cs = cs := by
  rw [trimBoth, dropWhile_eq_self h, dropWhile_eq_self (by simpa using h), List.reverse_reverse]

theorem trimBoth_of_last {cs : List Char} (h : ∀ c ∈ cs.getLast?, drop c = false) :
    trimBoth drop cs = cs.dropWhile drop := by
  rcases List.eq_nil_or_concat cs with rfl | ⟨init, c, rfl⟩
  · rfl
  · rw [List.concat_eq_append] at *
    have hc : drop c = false := h c List.getLast?_concat
    rw [trimBoth, List.dropWhile_append]
    split
    · simp [hc]
    · simp [hc]

theorem last_of_trimBoth_eq_self {cs : List Char} (h : trimBoth drop cs = cs) :
    ∀ c ∈ cs.getLast?, drop c = false := by
  intro c hc
  have hreverse : (cs.dropWhile drop).reverse.dropWhile drop = cs.reverse :=
    List.reverse_eq_iff.mp h
  have hhead : ((cs.dropWhile drop).reverse.dropWhile drop).head? = some c := by
    rw [hreverse, List.head?_reverse]
    exact hc
  have hnot := List.head?_dropWhile_not drop (cs.dropWhile drop).reverse
  rw [hhead] at hnot
  exact hnot

/-- What is not dropped stays behind a text whose last character stays. -/
theorem trimBoth_append {cs ds : List Char} (h : ∀ c ∈ cs.getLast?, drop c = false)
    (hds : ∀ d ∈ ds, drop d = false) : trimBoth drop (cs ++ ds) = trimBoth drop cs ++ ds := by
  have hlast : ∀ c ∈ (cs ++ ds).getLast?, drop c = false := by
    intro c hc
    rw [List.getLast?_append] at hc
    cases hd : ds.getLast? with
    | none =>
      rw [hd, Option.none_or] at hc
      exact h c hc
    | some d =>
      rw [hd, Option.some_or] at hc
      rw [← Option.some.inj hc]
      exact hds d (List.mem_of_getLast? hd)
  rw [trimBoth_of_last hlast, trimBoth_of_last h, List.dropWhile_append, dropWhile_eq_self hds]
  split
  next hempty => rw [List.isEmpty_iff.mp hempty, List.nil_append]
  next => rfl

end TrimBoth

theorem trim_eq_empty_iff (s : String) : trim s = "" ↔ isBlank s = true := by
  rw [trim, isBlank, List.all_eq_true, ← trimBoth_eq_nil_iff, String.ofList_eq, String.toList_empty]

theorem trim_pad {left right : String} (hleft : isBlank left = true) (hright : isBlank right = true)
    (s : String) : trim (left ++ s ++ right) = trim s := by
  rw [trim, String.toList_append, String.toList_append,
    trimBoth_pad (List.all_eq_true.mp hleft) (List.all_eq_true.mp hright), trim]

theorem trim_trim (s : String) : trim (trim s) = trim s := by
  obtain ⟨left, right, hchars, hleft, hright⟩ := exists_eq_append_trimBoth isBlankChar s.toList
  have hpad := trimBoth_pad hleft hright (trimBoth isBlankChar s.toList)
  rw [← hchars] at hpad
  rw [trim, trim, String.toList_ofList, ← hpad]

theorem isBlank_trim (s : String) : isBlank (trim s) = isBlank s := by
  rw [Bool.eq_iff_iff, ← trim_eq_empty_iff, trim_trim, trim_eq_empty_iff]

/-- No character but blanks is lost. -/
theorem mem_trim_iff {c : Char} (hc : isBlankChar c = false) (s : String) :
    c ∈ (trim s).toList ↔ c ∈ s.toList := by
  obtain ⟨left, right, hchars, hleft, hright⟩ := exists_eq_append_trimBoth isBlankChar s.toList
  have hkept : ∀ cs : List Char, (∀ d ∈ cs, isBlankChar d = true) → c ∉ cs := by
    intro cs hcs hmem
    rw [hcs c hmem] at hc
    cases hc
  rw [trim, String.toList_ofList]
  constructor
  · intro hmem
    rw [hchars]
    exact List.mem_append_left _ (List.mem_append_right _ hmem)
  · intro hmem
    rw [hchars] at hmem
    simpa [hkept left hleft, hkept right hright] using hmem

/-! ## Case -/

/-- A character stays as it is, or it is one of the capital letters. -/
theorem toLower_eq_self_or (c : Char) :
    c.toLower = c ∨ ∃ n, 65 ≤ n ∧ n ≤ 90 ∧ c = Char.ofNat n := by
  by_cases h : 'A'.val ≤ c.val ∧ c.val ≤ 'Z'.val
  · exact Or.inr ⟨c.toNat, h.1, h.2, (Char.ofNat_toNat c).symm⟩
  · exact Or.inl (dif_neg h)

/-- A letter that becomes small is no blank and no comma, before and after. -/
theorem toLower_cases (c : Char) :
    c.toLower = c ∨ isBlankChar c.toLower = isBlankChar c ∧ c.toLower ≠ ',' ∧ c ≠ ',' := by
  refine (toLower_eq_self_or c).imp_right ?_
  rintro ⟨n, hlow, hhigh, rfl⟩
  interval_cases n <;> decide

theorem toLower_toLower (c : Char) : c.toLower.toLower = c.toLower := by
  rcases toLower_eq_self_or c with h | ⟨n, hlow, hhigh, rfl⟩
  · rw [h, h]
  · interval_cases n <;> decide

theorem isBlankChar_toLower (c : Char) : isBlankChar c.toLower = isBlankChar c := by
  rcases toLower_cases c with h | h
  · rw [h]
  · exact h.1

theorem toLower_eq_comma_iff (c : Char) : c.toLower = ',' ↔ c = ',' := by
  rcases toLower_cases c with h | ⟨-, hlower, hc⟩
  · rw [h]
  · exact ⟨fun heq => absurd heq hlower, fun heq => absurd heq hc⟩

theorem toList_lowerAscii (s : String) : (lowerAscii s).toList = s.toList.map Char.toLower := by
  rw [lowerAscii, String.toList_ofList]

theorem lowerAscii_lowerAscii (s : String) : lowerAscii (lowerAscii s) = lowerAscii s := by
  rw [← String.toList_inj, toList_lowerAscii, toList_lowerAscii, List.map_map]
  exact List.map_congr_left fun c _ => toLower_toLower c

theorem lowerAscii_trim (s : String) : lowerAscii (trim s) = trim (lowerAscii s) := by
  rw [trim, trim, lowerAscii, String.toList_ofList, toList_lowerAscii,
    trimBoth_map isBlankChar_toLower]

theorem lowerAscii_eq_empty_iff (s : String) : lowerAscii s = "" ↔ s = "" := by
  rw [← String.toList_inj, toList_lowerAscii, ← String.toList_inj]
  simp

theorem comma_mem_lowerAscii (s : String) : ',' ∈ (lowerAscii s).toList ↔ ',' ∈ s.toList := by
  rw [toList_lowerAscii, List.mem_map]
  simp only [toLower_eq_comma_iff, exists_eq_right]

theorem eqIgnoringCase_iff (a b : String) :
    eqIgnoringCase a b = true ↔ lowerAscii a = lowerAscii b :=
  beq_iff_eq

end PlatformLink.Text
