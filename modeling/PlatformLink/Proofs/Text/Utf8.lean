import Mathlib.Tactic.IntervalCases
import PlatformLink.Text.Utf8

/-!
# The round trip of UTF-8

Reading the octets of a text gives the text back. An octet that leads a character leaves behind what
the character still lacks, and the octets after it fill this in; the bounds on the second octet are
those that a character meets because its code is neither overlong nor a surrogate.
-/

namespace PlatformLink.Text

theorem utf8EncodeChar_ne_nil (c : Char) : String.utf8EncodeChar c ≠ [] := by
  intro hnil
  have hlength := String.length_utf8EncodeChar c
  rw [hnil] at hlength
  exact absurd hlength (Nat.ne_of_lt c.utf8Size_pos)

theorem toNat_valid (c : Char) : c.toNat < 0xD800 ∨ 0xDFFF < c.toNat ∧ c.toNat < 0x110000 := by
  have h := c.valid
  rw [UInt32.isValidChar] at h
  exact h

/-- What the first octet of a character of two octets leaves behind. -/
theorem beginAt_two {k : Nat} (hlow : 2 ≤ k) (hhigh : k < 32) :
    beginAt (UInt8.ofNat (k + 0xC0)) = ([], .part 1 0x80 0xBF k) := by
  interval_cases k <;> rfl

theorem beginAt_three {k : Nat} (h : k < 16) :
    beginAt (UInt8.ofNat (k + 0xE0)) =
      ([], .part 2 (if k = 0 then 0xA0 else 0x80) (if k = 13 then 0x9F else 0xBF) k) := by
  interval_cases k <;> rfl

theorem beginAt_four {k : Nat} (h : k < 5) :
    beginAt (UInt8.ofNat (k + 0xF0)) =
      ([], .part 3 (if k = 0 then 0x90 else 0x80) (if k = 4 then 0x8F else 0xBF) k) := by
  interval_cases k <;> rfl

/-- An octet within the bounds adds six bits. -/
theorem next_part {left low high code n : Nat} (hn : n < 64) (hlow : low ≤ n + 0x80)
    (hhigh : n + 0x80 ≤ high) :
    (Begun.part left low high code).next (UInt8.ofNat (n + 0x80)) =
      if left ≤ 1 then ([some (Char.ofNat (code * 64 + n))], .nothing)
      else ([], .part (left - 1) 0x80 0xBF (code * 64 + n)) := by
  have hb : (UInt8.ofNat (n + 0x80)).toNat = n + 0x80 := by
    rw [UInt8.toNat_ofNat']
    omega
  simp only [Begun.next, hb, hlow, hhigh, and_self, if_true, Nat.add_sub_cancel]

theorem next_nothing (b : UInt8) : Begun.nothing.next b = beginAt b := rfl

theorem decodeOnto_cons (found : List (Option Char)) (p : Begun) (b : UInt8) (rest : Octets) :
    decodeOnto found p (b :: rest) = decodeOnto ((p.next b).1.reverse ++ found) (p.next b).2 rest :=
  rfl

/-- The octets of a character are read as that character, whatever follows them. -/
theorem decodeOnto_encodeChar (found : List (Option Char)) (c : Char) (rest : Octets) :
    decodeOnto found .nothing (String.utf8EncodeChar c ++ rest) =
      decodeOnto (some c :: found) .nothing rest := by
  have hvalid := toNat_valid c
  have hc : Char.ofNat c.toNat = c := Char.ofNat_toNat c
  have hfull : ∀ n, n = c.toNat → Char.ofNat n = c := by
    rintro n rfl
    exact hc
  simp only [String.utf8EncodeChar, ← Char.toNat_val] at *
  generalize c.val.toNat = v at *
  split
  next h =>
    have hb : (UInt8.ofNat v).toNat = v := by
      rw [UInt8.toNat_ofNat']
      omega
    have hv : v < 0x80 := by omega
    simp [decodeOnto_cons, next_nothing, beginAt, hb, hv, hc]
  split
  next h1 h =>
    simp only [List.cons_append, List.nil_append, decodeOnto_cons, next_nothing]
    rw [Nat.mod_eq_of_lt (by omega : v / 64 < 32), beginAt_two (by omega) (by omega)]
    rw [next_part (by omega) (by omega) (by omega), if_pos (by omega), hfull _ (by omega)]
    rfl
  split
  next h1 h2 h =>
    simp only [List.cons_append, List.nil_append, decodeOnto_cons, next_nothing]
    rw [Nat.mod_eq_of_lt (by omega : v / 4096 < 16), beginAt_three (by omega)]
    rw [next_part (by omega) (by split <;> omega) (by split <;> omega), if_neg (by omega)]
    rw [next_part (by omega) (by omega) (by omega), if_pos (by omega), hfull _ (by omega)]
    rfl
  next h1 h2 h3 =>
    simp only [List.cons_append, List.nil_append, decodeOnto_cons, next_nothing]
    rw [Nat.mod_eq_of_lt (by omega : v / 262144 < 8), beginAt_four (by omega)]
    rw [next_part (by omega) (by split <;> omega) (by split <;> omega), if_neg (by omega)]
    rw [next_part (by omega) (by omega) (by omega), if_neg (by omega)]
    rw [next_part (by omega) (by omega) (by omega), if_pos (by omega), hfull _ (by omega)]
    rfl

theorem decodeOnto_encodeChars (found : List (Option Char)) (cs : List Char) :
    decodeOnto found .nothing (cs.flatMap String.utf8EncodeChar) =
      found.reverse ++ cs.map some := by
  induction cs generalizing found with
  | nil => simp [decodeOnto, Begun.finish]
  | cons c rest ih =>
    rw [List.flatMap_cons, decodeOnto_encodeChar, ih]
    simp

theorem strictOnto_map_some (found cs : List Char) :
    strictOnto found (cs.map some) = some (found.reverse ++ cs) := by
  induction cs generalizing found with
  | nil => simp [strictOnto]
  | cons c rest ih =>
    rw [List.map_cons, strictOnto, ih]
    simp

/-- The octets of a text spell the text. -/
theorem decode?_encodeChars (cs : List Char) :
    decode? (cs.flatMap String.utf8EncodeChar) = some (String.ofList cs) := by
  rw [decode?, decode, decodeOnto_encodeChars, List.reverse_nil, List.nil_append,
    strictOnto_map_some]
  simp

theorem decode?_octets (s : String) : decode? (octets s) = some s := by
  rw [octets, decode?_encodeChars, String.ofList_toList]

/-- Nothing in the octets of a text needs a replacement. -/
theorem decodeLossy_encodeChars (cs : List Char) :
    decodeLossy (cs.flatMap String.utf8EncodeChar) = String.ofList cs := by
  rw [decodeLossy, decode, decodeOnto_encodeChars, List.reverse_nil, List.nil_append, List.map_map]
  simp [Function.comp_def]

/-- The octets of a text are counted as the text itself counts them. -/
theorem octetLength_eq_utf8ByteSize (s : String) : octetLength s = s.utf8ByteSize := by
  have hchars (cs : List Char) :
      (cs.map Char.utf8Size).foldr (· + ·) 0 = cs.utf8Encode.size := by
    induction cs with
    | nil => rfl
    | cons c rest ih =>
      have hchar : [c].utf8Encode.size = c.utf8Size := by
        rw [List.utf8Encode_singleton, List.size_toByteArray, String.length_utf8EncodeChar]
      rw [List.map_cons, List.foldr_cons, ih, List.utf8Encode_cons, ByteArray.size_append, hchar]
  rw [octetLength, hchars, String.utf8Encode_toList, String.size_toByteArray]

end PlatformLink.Text
