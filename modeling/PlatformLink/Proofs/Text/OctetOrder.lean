import PlatformLink.Proofs.Text.Utf8

/-!
# The order of octets

Texts are ordered by the codes of their characters. UTF-8 keeps this order: the octets of a text
come before those of another one just where the text comes before the other. Of two characters the
one of the greater code has the greater octet where the two first differ: more octets lead with a
greater one, and of as many octets each holds digits of the code.
-/

namespace PlatformLink.Text

section

variable {m n : Nat} {l k : Octets}

theorem cons_lt_cons_of_lt (hn : n < 256) (h : m < n) :
    UInt8.ofNat m :: l < UInt8.ofNat n :: k := by
  refine List.Lex.rel ?_
  rw [UInt8.lt_iff_toNat_lt, UInt8.toNat_ofNat', UInt8.toNat_ofNat']
  omega

/-- Where an octet may be the same the next ones decide. -/
theorem cons_lt_cons_of_le (hn : n < 256) (h : m ≤ n) (hnext : m = n → l < k) :
    UInt8.ofNat m :: l < UInt8.ofNat n :: k := by
  rcases Nat.lt_or_eq_of_le h with hlt | rfl
  · exact cons_lt_cons_of_lt hn hlt
  · exact List.Lex.cons (hnext rfl)

end

/-- Where characters differ the greater code decides, whatever follows. -/
theorem encodeChar_append_lt {c d : Char} (h : c < d) (rest more : Octets) :
    String.utf8EncodeChar c ++ rest < String.utf8EncodeChar d ++ more := by
  have hcodes : c.toNat < d.toNat := h
  have hd := toNat_valid d
  simp only [String.utf8EncodeChar, Char.toNat_val]
  generalize c.toNat = v at *
  generalize d.toNat = w at *
  -- more octets lead with a greater one; of as many the first digits that differ decide
  split
  next =>
    split
    next => exact cons_lt_cons_of_lt (by omega) (by omega)
    split
    next => exact cons_lt_cons_of_lt (by omega) (by omega)
    split
    next => exact cons_lt_cons_of_lt (by omega) (by omega)
    next => exact cons_lt_cons_of_lt (by omega) (by omega)
  rw [if_neg (by omega : ¬w ≤ 127)]
  split
  next =>
    split
    next =>
      exact cons_lt_cons_of_le (by omega) (by omega) fun _ =>
        cons_lt_cons_of_lt (by omega) (by omega)
    split
    next => exact cons_lt_cons_of_lt (by omega) (by omega)
    next => exact cons_lt_cons_of_lt (by omega) (by omega)
  rw [if_neg (by omega : ¬w ≤ 2047)]
  split
  next =>
    split
    next =>
      exact cons_lt_cons_of_le (by omega) (by omega) fun _ =>
        cons_lt_cons_of_le (by omega) (by omega) fun _ =>
          cons_lt_cons_of_lt (by omega) (by omega)
    next => exact cons_lt_cons_of_lt (by omega) (by omega)
  rw [if_neg (by omega : ¬w ≤ 65535)]
  exact cons_lt_cons_of_le (by omega) (by omega) fun _ =>
    cons_lt_cons_of_le (by omega) (by omega) fun _ =>
      cons_lt_cons_of_le (by omega) (by omega) fun _ => cons_lt_cons_of_lt (by omega) (by omega)

theorem append_lt_append {a b : Octets} (front : Octets) (h : a < b) : front ++ a < front ++ b := by
  induction front with
  | nil => exact h
  | cons x front ih => exact List.Lex.cons ih

/-- The octets of texts are in the order of the texts. -/
theorem octets_lt_octets {s t : String} (h : s < t) : octets s < octets t := by
  have hchars : List.Lex (· < ·) s.toList t.toList := h
  rw [octets, octets]
  generalize s.toList = cs at hchars
  generalize t.toList = ds at hchars
  induction hchars with
  | @nil d ds =>
    obtain ⟨b, bs, hb⟩ := List.exists_cons_of_ne_nil (utf8EncodeChar_ne_nil d)
    rw [List.flatMap_nil, List.flatMap_cons, hb]
    exact List.Lex.nil
  | rel hcd => exact encodeChar_append_lt hcd _ _
  | cons _ ih => exact append_lt_append _ ih

end PlatformLink.Text
