import Mathlib.Tactic.IntervalCases
import PlatformLink.Json.Reader
import PlatformLink.Json.Writer
import PlatformLink.Proofs.Outcome
import PlatformLink.Proofs.Text.Utf8

/-!
# Written strings and numbers are read

`Spells read text x` says that a reader takes `text` for `x` and stops behind it, whatever follows.
Only a number could be taken to go on, so what follows may be anything but a digit, a point or the
mark of an exponent. Strings and whole numbers are read as what was written.
-/

namespace PlatformLink.Json

open Text (Octets octets)

variable {α : Type}

/-- What may follow a value: nothing with which a number could go on. -/
def Follows (rest : Octets) : Prop :=
  ∀ b ∈ rest.head?, isDigit b = false ∧ b ≠ 0x2E ∧ isExponentMark b = false

theorem follows_nil : Follows [] := nofun

theorem follows_cons {b : UInt8} (h : isDigit b = false ∧ b ≠ 0x2E ∧ isExponentMark b = false)
    (rest : Octets) : Follows (b :: rest) := by
  intro c hc
  rw [← Option.some.inj hc]
  exact h

/-- The first octet of a text is neither blank nor the bracket that ends an array. -/
def Opens (bs : Octets) : Prop :=
  ∃ b more, bs = b :: more ∧ isBlankOctet b = false ∧ b ≠ 0x5D

/-- A reader takes a text for a value, whatever follows. -/
structure Spells (read : Octets → Decoded (α × Octets)) (text : String) (x : α) : Prop where
  opens : Opens (octets text)
  taken : ∀ rest, Follows rest → read (octets text ++ rest) = .ok (x, rest)

theorem octets_ofList (cs : List Char) :
    octets (String.ofList cs) = cs.flatMap String.utf8EncodeChar := by
  rw [octets, String.toList_ofList]

theorem skipBlanks_cons {b : UInt8} (h : isBlankOctet b = false) (rest : Octets) :
    skipBlanks (b :: rest) = b :: rest := by
  rw [skipBlanks, List.dropWhile_cons_of_neg (by simp [h])]

/-! ## Strings -/

/-- An octet of a character is its code, or past ASCII. -/
theorem toNat_of_mem_utf8EncodeChar {c : Char} {b : UInt8} (h : b ∈ String.utf8EncodeChar c) :
    b.toNat = c.toNat ∨ 0x80 ≤ b.toNat := by
  rw [← Char.toNat_val]
  unfold String.utf8EncodeChar at h
  dsimp only at h
  split at h
  · rw [List.mem_singleton.mp h, UInt8.toNat_ofNat']
    omega
  split at h
  · simp only [List.mem_cons, List.not_mem_nil, or_false] at h
    rcases h with rfl | rfl <;> rw [UInt8.toNat_ofNat'] <;> omega
  split at h
  · simp only [List.mem_cons, List.not_mem_nil, or_false] at h
    rcases h with rfl | rfl | rfl <;> rw [UInt8.toNat_ofNat'] <;> omega
  · simp only [List.mem_cons, List.not_mem_nil, or_false] at h
    rcases h with rfl | rfl | rfl | rfl <;> rw [UInt8.toNat_ofNat'] <;> omega

/-- Octets that stand for themselves in a string are kept. -/
theorem readStringFrom_plain {bs : Octets}
    (h : ∀ b ∈ bs, b ≠ 0x22 ∧ b ≠ 0x5C ∧ ¬b < 0x20) (found rest : Octets) :
    readStringFrom .plain found (bs ++ rest) =
      readStringFrom .plain (bs.reverse ++ found) rest := by
  induction bs generalizing found with
  | nil => rfl
  | cons b bs ih =>
    obtain ⟨hquote, hbackslash, hcontrol⟩ := h b List.mem_cons_self
    rw [List.cons_append, readStringFrom, StringState.next, if_neg hquote, if_neg hbackslash,
      if_neg hcontrol]
    dsimp only
    rw [ih (fun c hc => h c (List.mem_cons_of_mem b hc)), List.reverse_cons, List.append_assoc]
    rfl

/-- A control character is written by its code in hexadecimal digits. -/
theorem readStringFrom_control {c : Char} (h : c.toNat < 0x20) (found rest : Octets) :
    readStringFrom .plain found (['\\', 'u', '0', '0', hexDigit (c.toNat / 16),
      hexDigit c.toNat].flatMap String.utf8EncodeChar ++ rest) =
      readStringFrom .plain ((String.utf8EncodeChar c).reverse ++ found) rest := by
  rw [← Char.ofNat_toNat c]
  generalize c.toNat = n at h
  interval_cases n <;> rfl

theorem readStringFrom_escapedChar (c : Char) (found rest : Octets) :
    readStringFrom .plain found ((escapedChar c).flatMap String.utf8EncodeChar ++ rest) =
      readStringFrom .plain ((String.utf8EncodeChar c).reverse ++ found) rest := by
  unfold escapedChar
  split
  · subst c; rfl
  split
  · subst c; rfl
  split
  · subst c; rfl
  split
  · subst c; rfl
  split
  · subst c; rfl
  split
  · subst c; rfl
  split
  · subst c; rfl
  split
  next hcontrol => exact readStringFrom_control hcontrol found rest
  next hquote hbackslash _ _ _ _ _ hcontrol =>
    rw [List.flatMap_singleton]
    refine readStringFrom_plain (fun b hb => ?_) found rest
    have hcode : ∀ d : Char, c ≠ d → c.toNat ≠ d.toNat :=
      fun d hne heq => hne (Char.toNat_inj.mp heq)
    have hquote : c.toNat ≠ 0x22 := hcode '"' hquote
    have hbackslash : c.toNat ≠ 0x5C := hcode '\\' hbackslash
    have hb := toNat_of_mem_utf8EncodeChar hb
    rw [Ne, Ne, ← UInt8.toNat_inj, ← UInt8.toNat_inj, UInt8.lt_iff_toNat_lt]
    have h22 : (0x22 : UInt8).toNat = 0x22 := rfl
    have h5C : (0x5C : UInt8).toNat = 0x5C := rfl
    have h20 : (0x20 : UInt8).toNat = 0x20 := rfl
    omega

/-- The characters of a string in their escaped form. -/
def escapedOctets (cs : List Char) : Octets :=
  (cs.flatMap escapedChar).flatMap String.utf8EncodeChar

theorem readStringFrom_escapedOctets (cs : List Char) (found rest : Octets) :
    readStringFrom .plain found (escapedOctets cs ++ rest) =
      readStringFrom .plain ((cs.flatMap String.utf8EncodeChar).reverse ++ found) rest := by
  induction cs generalizing found with
  | nil => rfl
  | cons c cs ih =>
    have hcons : escapedOctets (c :: cs) =
        (escapedChar c).flatMap String.utf8EncodeChar ++ escapedOctets cs := by
      simp [escapedOctets]
    rw [hcons, List.append_assoc, readStringFrom_escapedChar, ih, List.flatMap_cons,
      List.reverse_append, List.append_assoc]

theorem octets_writeString (s : String) :
    octets (writeString s) = 0x22 :: (escapedOctets s.toList ++ [0x22]) := by
  rw [writeString, Text.octets_append, Text.octets_append,
    octets_ofList (s.toList.flatMap escapedChar)]
  rfl

/-- A written string is read after its opening quote. -/
theorem readString_written (s : String) (rest : Octets) :
    readString (escapedOctets s.toList ++ 0x22 :: rest) = .ok (s, rest) := by
  have hclosed : ∀ found, StringState.plain.next found 0x22 = .closed := fun _ => rfl
  rw [readString, readStringFrom_escapedOctets, readStringFrom, hclosed]
  dsimp only
  rw [List.append_nil, List.reverse_reverse, ← octets, Text.decode?_octets]

/-! ## Whole numbers -/

/-- The digits of a number as octets. -/
def digitOctets (n : Nat) : Octets :=
  (Nat.toDigits 10 n).map fun c => UInt8.ofNat c.toNat

theorem isDigit_iff (b : UInt8) : isDigit b = true ↔ 0x30 ≤ b.toNat ∧ b.toNat ≤ 0x39 := by
  simp [isDigit, UInt8.le_iff_toNat_le]

theorem toNat_ofNat_of_isDigit {c : Char} (h : c.isDigit = true) :
    (UInt8.ofNat c.toNat).toNat = c.toNat ∧ 0x30 ≤ c.toNat ∧ c.toNat ≤ 0x39 := by
  have hrange : 0x30 ≤ c.toNat ∧ c.toNat ≤ 0x39 := Char.isDigit_iff_toNat.mp h
  rw [UInt8.toNat_ofNat']
  omega

theorem isDigit_of_mem_toDigits {n : Nat} {c : Char} (h : c ∈ Nat.toDigits 10 n) :
    c.isDigit = true :=
  Nat.isDigit_of_mem_toDigits (by decide) (by decide) h

theorem octets_toString_nat (n : Nat) : octets (toString n) = digitOctets n := by
  have hchar : ∀ c : Char, c.isDigit = true →
      String.utf8EncodeChar c = [UInt8.ofNat c.toNat] := by
    intro c hc
    have hsmall : c.val.toNat ≤ 127 := le_trans (toNat_ofNat_of_isDigit hc).2.2 (by decide)
    rw [String.utf8EncodeChar, if_pos hsmall]
    rfl
  have htext : toString n = String.ofList (Nat.toDigits 10 n) := rfl
  rw [htext, octets_ofList, digitOctets, List.map_eq_flatMap, List.flatMap_def, List.flatMap_def,
    List.map_congr_left fun c hc => hchar c (isDigit_of_mem_toDigits hc)]

theorem isDigit_of_mem_digitOctets {n : Nat} {b : UInt8} (h : b ∈ digitOctets n) :
    isDigit b = true := by
  obtain ⟨c, hc, rfl⟩ := List.mem_map.mp h
  have hcode := toNat_ofNat_of_isDigit (isDigit_of_mem_toDigits hc)
  rw [isDigit_iff, hcode.1]
  exact hcode.2

/-- The digits of a number are read as far as they go. -/
theorem digitRun_digitOctets (n : Nat) {rest : Octets} (h : Follows rest) :
    digitRun (digitOctets n ++ rest) = ((digitOctets n).map digitValue, rest) := by
  have hdigits : ∀ b ∈ digitOctets n, isDigit b = true := fun b hb => isDigit_of_mem_digitOctets hb
  have hstop : rest.takeWhile isDigit = [] ∧ rest.dropWhile isDigit = rest := by
    cases rest with
    | nil => exact ⟨rfl, rfl⟩
    | cons b rest =>
      have hb : isDigit b = false := (h b rfl).1
      simp [hb]
  rw [digitRun, List.takeWhile_append_of_pos hdigits, List.dropWhile_append_of_pos hdigits,
    hstop.1, hstop.2, List.append_nil]

/-- Reading digits one after the other adds them to the number read before. -/
theorem foldl_digitValue {cs : List Char} (h : ∀ c ∈ cs, c.isDigit = true) (n : Nat) :
    ((cs.map fun c => UInt8.ofNat c.toNat).map digitValue).foldl (fun n d => n * 10 + d) n =
      Nat.ofDigitChars 10 cs n := by
  induction cs generalizing n with
  | nil => rfl
  | cons c cs ih =>
    have hdigit : digitValue (UInt8.ofNat c.toNat) = c.toNat - '0'.toNat := by
      rw [digitValue, (toNat_ofNat_of_isDigit (h c List.mem_cons_self)).1]
      rfl
    rw [List.map_cons, List.map_cons, List.foldl_cons, hdigit, Nat.ofDigitChars_cons, Nat.mul_comm,
      ih fun d hd => h d (List.mem_cons_of_mem c hd)]

theorem foldl_digitOctets (n : Nat) :
    ((digitOctets n).map digitValue).foldl (fun n d => n * 10 + d) 0 = n := by
  rw [digitOctets, foldl_digitValue (fun c hc => isDigit_of_mem_toDigits hc),
    Nat.ofDigitChars_toDigits (by decide) (by decide)]

theorem le_foldl_digits (ds : List Nat) (s : Nat) : s ≤ ds.foldl (fun n d => n * 10 + d) s := by
  induction ds generalizing s with
  | nil => exact le_rfl
  | cons d ds ih => exact le_trans (by omega) (ih (s * 10 + d))

/-- A significand takes all digits of a number in range. -/
theorem absorb_of_le {ds : List Nat} {s : Nat}
    (h : (ds.foldl (fun n d => n * 10 + d) s : Nat) ≤ greatestWhole) :
    absorb s ds = (ds.foldl (fun n d => n * 10 + d) s, []) := by
  induction ds generalizing s with
  | nil => rfl
  | cons d ds ih =>
    have hle := le_foldl_digits ds (s * 10 + d)
    rw [List.foldl_cons] at h
    rw [absorb, if_neg (by omega), ih h, List.foldl_cons]

/-- Only zero begins with the digit zero. -/
theorem head_toDigits {n : Nat} (h : 0 < n) : ∃ c cs, Nat.toDigits 10 n = c :: cs ∧ c ≠ '0' := by
  induction n using Nat.strong_induction_on with
  | _ n ih =>
    by_cases hsmall : n < 10
    · refine ⟨n.digitChar, [], Nat.toDigits_of_lt_base hsmall, ?_⟩
      interval_cases n <;> decide
    · obtain ⟨c, cs, hdigits, hc⟩ := ih (n / 10) (by omega) (by omega)
      refine ⟨c, cs ++ [(n % 10).digitChar], ?_, hc⟩
      rw [Nat.toDigits_of_base_le (by decide) (by omega), hdigits, List.cons_append]

/-- A written number is read after its sign. -/
theorem readNumber_digitOctets (negative : Bool) {n : Nat} (hn : (n : Int) ≤ greatestWhole)
    {rest : Octets} (h : Follows rest) :
    readNumber negative (digitOctets n ++ rest) = wholeOrReal negative n rest := by
  have hafter : readAfterWhole negative n [] rest = wholeOrReal negative n rest := by
    unfold readAfterWhole
    cases rest with
    | nil => rfl
    | cons b rest =>
      obtain ⟨-, hpoint, hmark⟩ := h b rfl
      simp [hpoint, hmark]
  by_cases hzero : n = 0
  · subst hzero
    have hdigits : digitOctets 0 = [0x30] := rfl
    rw [hdigits, List.cons_append, List.nil_append]
    cases rest with
    | nil => exact hafter
    | cons b rest =>
      have hb : isDigit b = false := (h b rfl).1
      unfold readNumber
      simp only [if_true, hb]
      exact hafter
  · obtain ⟨c, cs, hdigits, hc⟩ := head_toDigits (Nat.pos_of_ne_zero hzero)
    have hhead : digitOctets n = UInt8.ofNat c.toNat :: cs.map fun c => UInt8.ofNat c.toNat := by
      rw [digitOctets, hdigits, List.map_cons]
    have hdigit : isDigit (UInt8.ofNat c.toNat) = true :=
      isDigit_of_mem_digitOctets (n := n) (hhead ▸ List.mem_cons_self)
    have hnonzero : UInt8.ofNat c.toNat ≠ 0x30 := by
      intro heq
      have hcode := toNat_ofNat_of_isDigit (isDigit_of_mem_toDigits (hdigits ▸ List.mem_cons_self))
      rw [heq] at hcode
      exact hc (Char.toNat_inj.mp hcode.1.symm)
    have hrun := digitRun_digitOctets n h
    have habsorb : absorb 0 ((digitOctets n).map digitValue) = (n, []) := by
      rw [absorb_of_le (by rw [foldl_digitOctets]; exact hn), foldl_digitOctets]
    rw [hhead] at hrun habsorb ⊢
    rw [List.cons_append] at hrun ⊢
    unfold readNumber
    simp only [hnonzero, if_false, hdigit, if_true, hrun, habsorb]
    exact hafter

theorem digitOctets_eq_cons (n : Nat) :
    ∃ b more, digitOctets n = b :: more ∧ isDigit b = true := by
  cases h : digitOctets n with
  | nil => exact absurd (List.map_eq_nil_iff.mp h) Nat.toDigits_ne_nil
  | cons b more =>
    exact ⟨b, more, rfl, isDigit_of_mem_digitOctets (n := n) (h ▸ List.mem_cons_self)⟩

theorem octets_toString_int (n : Int) :
    octets (toString n) = if n < 0 then 0x2D :: digitOctets n.natAbs else digitOctets n.natAbs := by
  cases n with
  | ofNat m => exact octets_toString_nat m
  | negSucc m =>
    have htext : toString (Int.negSucc m) = "-" ++ toString (m + 1) := rfl
    rw [if_pos (Int.negSucc_lt_zero m), htext, Text.octets_append, octets_toString_nat]
    rfl

/-- A whole number is read with its sign. -/
theorem readNumber_whole {n : Int} (bounds : leastWhole ≤ n ∧ n ≤ greatestWhole) {rest : Octets}
    (h : Follows rest) :
    readNumber (decide (n < 0)) (digitOctets n.natAbs ++ rest) = .ok (.whole n bounds, rest) := by
  have hsmall : (n.natAbs : Int) ≤ greatestWhole := by
    simp only [leastWhole, greatestWhole] at *
    omega
  have hofInt : Number.ofInt? n = some (.whole n bounds) := dif_pos bounds
  rw [readNumber_digitOctets _ hsmall h, wholeOrReal]
  by_cases hneg : n < 0
  · have hnonzero : n.natAbs ≠ 0 := by omega
    have habs : -(n.natAbs : Int) = n := by omega
    simp only [hneg, decide_true, if_true, hnonzero, if_false, habs, hofInt]
  · have habs : (n.natAbs : Int) = n := by omega
    simp only [hneg, decide_false, Bool.false_eq_true, if_false, habs, hofInt]

end PlatformLink.Json
