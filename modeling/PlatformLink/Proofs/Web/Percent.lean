import Mathlib.Tactic.IntervalCases
import PlatformLink.Proofs.Text.Utf8
import PlatformLink.Web.Percent

/-!
# The round trip of percent-encoding

Where a percent sign is itself escaped, an encoded text decodes to the octets of the text. An
encoded text holds no character that is escaped, beside the percent signs and digits that the
encoding writes.
-/

namespace PlatformLink.Web

open Text (Octets)

def upperHexDigits : List Char := "0123456789ABCDEF".toList

theorem upperHexDigit_mem (n : Nat) : upperHexDigit n ∈ upperHexDigits := by
  have h : ∀ k < 16, (Nat.digitChar k).toUpper ∈ upperHexDigits := by decide
  exact h (n % 16) (Nat.mod_lt n (by decide))

theorem hexDigitValue_upperHexDigit (n : Nat) :
    hexDigitValue (upperHexDigit n) = some (n % 16) := by
  have h : ∀ k < 16, hexDigitValue (Nat.digitChar k).toUpper = some k := by decide
  exact h (n % 16) (Nat.mod_lt n (by decide))

theorem percentDecode_octet (b : UInt8) (rest : List Char) :
    percentDecode (percentOctet b ++ rest) = b :: percentDecode rest := by
  have hb := b.toNat_lt
  have hvalue : b.toNat / 16 % 16 * 16 + b.toNat % 16 = b.toNat := by omega
  simp only [percentOctet, List.cons_append, List.nil_append, percentDecode,
    hexDigitValue_upperHexDigit, hvalue, UInt8.ofNat_toNat]

theorem percentDecode_octets (bs : Octets) (rest : List Char) :
    percentDecode (bs.flatMap percentOctet ++ rest) = bs ++ percentDecode rest := by
  induction bs with
  | nil => rfl
  | cons b bs ih =>
    rw [List.flatMap_cons, List.append_assoc, percentDecode_octet, ih, List.cons_append]

theorem percentDecode_cons_of_ne {c : Char} (h : c ≠ '%') (rest : List Char) :
    percentDecode (c :: rest) = String.utf8EncodeChar c ++ percentDecode rest := by
  rw [percentDecode]
  rintro a b t rfl
  exact absurd rfl h

theorem percentDecode_char {escaped : Char → Bool} (h : escaped '%' = true) (c : Char)
    (rest : List Char) :
    percentDecode (percentChar escaped c ++ rest) =
      String.utf8EncodeChar c ++ percentDecode rest := by
  unfold percentChar
  split
  next => exact percentDecode_octets _ rest
  next hc =>
    have hne : c ≠ '%' := by
      rintro rfl
      exact hc (by simp [h])
    exact percentDecode_cons_of_ne hne rest

/-- An encoded text decodes to its octets. -/
theorem percentDecode_percentEncode {escaped : Char → Bool} (h : escaped '%' = true)
    (cs : List Char) :
    percentDecode (percentEncode escaped cs) = cs.flatMap String.utf8EncodeChar := by
  induction cs with
  | nil => exact percentDecode_nil
  | cons c cs ih =>
    have hcons : percentEncode escaped (c :: cs) =
        percentChar escaped c ++ percentEncode escaped cs := rfl
    rw [hcons, percentDecode_char h, ih, List.flatMap_cons]

theorem mem_percentOctet {c : Char} {b : UInt8} (h : c ∈ percentOctet b) :
    c = '%' ∨ c ∈ upperHexDigits := by
  simp only [percentOctet, List.mem_cons, List.not_mem_nil, or_false] at h
  rcases h with rfl | rfl | rfl
  · exact Or.inl rfl
  · exact Or.inr (upperHexDigit_mem _)
  · exact Or.inr (upperHexDigit_mem _)

theorem mem_percentChar {escaped : Char → Bool} {c d : Char} (h : c ∈ percentChar escaped d) :
    (c = d ∧ c.toNat < 0x80 ∧ escaped c = false) ∨ c = '%' ∨ c ∈ upperHexDigits := by
  unfold percentChar at h
  split at h
  next =>
    obtain ⟨b, -, hb⟩ := List.mem_flatMap.mp h
    exact Or.inr (mem_percentOctet hb)
  next hplain =>
    obtain rfl := List.mem_singleton.mp h
    exact Or.inl ⟨rfl, by simpa using hplain⟩

/-- What may stand in an encoded text. -/
theorem mem_percentEncode {escaped : Char → Bool} {cs : List Char} {c : Char}
    (h : c ∈ percentEncode escaped cs) :
    c ∈ cs ∧ c.toNat < 0x80 ∧ escaped c = false ∨ c = '%' ∨ c ∈ upperHexDigits := by
  obtain ⟨d, hd, hc⟩ := List.mem_flatMap.mp h
  rcases mem_percentChar hc with ⟨rfl, hplain⟩ | hescaped
  · exact Or.inl ⟨hd, hplain⟩
  · exact Or.inr hescaped

theorem percentChar_ne_nil (escaped : Char → Bool) (c : Char) : percentChar escaped c ≠ [] := by
  unfold percentChar
  split
  next =>
    obtain ⟨b, bs, hb⟩ := List.exists_cons_of_ne_nil (Text.utf8EncodeChar_ne_nil c)
    simp [hb, percentOctet]
  next => exact List.cons_ne_nil _ _

theorem percentEncode_eq_nil_iff (escaped : Char → Bool) (cs : List Char) :
    percentEncode escaped cs = [] ↔ cs = [] := by
  rw [percentEncode, List.flatMap_eq_nil_iff, List.eq_nil_iff_forall_not_mem]
  exact forall₂_congr fun c _ => iff_false_intro (percentChar_ne_nil escaped c)

theorem percentEncode_of_plain {escaped : Char → Bool} {cs : List Char}
    (h : ∀ c ∈ cs, c.toNat < 0x80 ∧ escaped c = false) : percentEncode escaped cs = cs := by
  induction cs with
  | nil => rfl
  | cons c cs ih =>
    have hc : percentChar escaped c = [c] := by
      have hc := h c List.mem_cons_self
      simp [percentChar, hc]
    rw [percentEncode, List.flatMap_cons, hc, ← percentEncode,
      ih fun d hd => h d (List.mem_cons_of_mem c hd)]
    rfl

end PlatformLink.Web
