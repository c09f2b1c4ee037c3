import PlatformLink.Proofs.Json.Scalar
import PlatformLink.Proofs.Json.Shape

/-!
# Written values are read

An array is read item by item and an object member by member, each behind a comma but the first. So
a list of texts is read as soon as each text is, and what a value is written as is read as that
value, if the nesting that is allowed suffices and its objects are sorted.
-/

namespace PlatformLink.Json

open Text (Octets octets)

variable {α σ : Type}

theorem Opens.append {bs : Octets} (h : Opens bs) (rest : Octets) : Opens (bs ++ rest) := by
  obtain ⟨b, more, rfl, hblank, hbracket⟩ := h
  exact ⟨b, more ++ rest, rfl, hblank, hbracket⟩

theorem opens_of_isDigit {b : UInt8} (h : isDigit b = true) (more : Octets) :
    Opens (b :: more) := by
  have hrange := (isDigit_iff b).mp h
  refine ⟨b, more, rfl, ?_, ?_⟩
  · simp only [isBlankOctet, Bool.or_eq_false_iff, beq_eq_false_iff_ne]
    refine ⟨⟨⟨?_, ?_⟩, ?_⟩, ?_⟩ <;> rintro rfl <;> revert hrange <;> decide
  · rintro rfl
    exact absurd hrange (by decide)

/-! ## Texts behind commas -/

/-- Texts that follow the first of a list, each behind a comma. -/
def afterCommas (texts : List String) : Octets :=
  texts.flatMap fun t => 0x2C :: octets t

theorem octets_commas (t : String) (texts : List String) :
    octets (",".intercalate (t :: texts)) = octets t ++ afterCommas texts := by
  induction texts generalizing t with
  | nil => rw [String.intercalate_singleton, afterCommas, List.flatMap_nil, List.append_nil]
  | cons u texts ih =>
    rw [String.intercalate_cons_cons, Text.octets_append, Text.octets_append, ih, List.append_assoc]
    rfl

theorem length_le_octets_commas {texts : List String} (h : ∀ t ∈ texts, octets t ≠ []) :
    texts.length ≤ (octets (",".intercalate texts)).length := by
  cases texts with
  | nil => exact Nat.zero_le _
  | cons t texts =>
    have hfirst := List.length_pos_iff.mpr (h t List.mem_cons_self)
    have hmore : texts.length ≤ (afterCommas texts).length := by
      clear h hfirst
      induction texts with
      | nil => exact Nat.zero_le _
      | cons u texts ih =>
        rw [afterCommas, List.flatMap_cons, ← afterCommas]
        simp only [List.length_append, List.length_cons]
        omega
    rw [octets_commas, List.length_append, List.length_cons]
    omega

theorem follows_afterCommas {close : UInt8} (h : close = 0x5D ∨ close = 0x7D)
    (texts : List String) (rest : Octets) : Follows (afterCommas texts ++ close :: rest) := by
  cases texts with
  | nil =>
    rcases h with rfl | rfl
    · exact follows_cons (by decide) rest
    · exact follows_cons (by decide) rest
  | cons t texts => exact follows_cons (by decide) _

/-! ## Arrays -/

theorem nextItem_first {bs : Octets} (h : Opens bs) : nextItem true bs = .ok (true, bs) := by
  obtain ⟨b, more, rfl, hblank, hbracket⟩ := h
  simp [nextItem, skipBlanks_cons hblank, hbracket]

theorem nextItem_comma {bs : Octets} (h : Opens bs) :
    nextItem false (0x2C :: bs) = .ok (true, bs) := by
  obtain ⟨b, more, rfl, hblank, hbracket⟩ := h
  have hcomma : isBlankOctet 0x2C = false := by decide
  simp [nextItem, skipBlanks_cons hcomma, skipBlanks_cons hblank, hbracket]

section Items

variable {item : Octets → Decoded (α × Octets)} {text : α → String} {xs : List α}
  (h : ∀ x ∈ xs, Spells item (text x) x)
include h

theorem readItems_afterCommas {fuel : Nat} (hfuel : xs.length < fuel) (found : List α)
    (rest : Octets) :
    readItems item fuel false found (afterCommas (xs.map text) ++ 0x5D :: rest) =
      .ok (found.reverse ++ xs, 0x5D :: rest) := by
  induction xs generalizing fuel found with
  | nil =>
    obtain ⟨fuel, rfl⟩ := Nat.exists_eq_add_one.mpr hfuel
    rw [List.append_nil]
    rfl
  | cons x xs ih =>
    obtain ⟨hx, hxs⟩ := List.forall_mem_cons.mp h
    obtain ⟨fuel, rfl⟩ := Nat.exists_eq_add_one.mpr (Nat.zero_lt_of_lt hfuel)
    have hmore : afterCommas ((x :: xs).map text) ++ 0x5D :: rest =
        0x2C :: (octets (text x) ++ (afterCommas (xs.map text) ++ 0x5D :: rest)) := by
      simp [afterCommas]
    rw [hmore, readItems, nextItem_comma (hx.opens.append _), ok_bind]
    dsimp only
    rw [hx.taken _ (follows_afterCommas (Or.inl rfl) _ rest), ok_bind]
    dsimp only
    rw [ih hxs (Nat.lt_of_succ_lt_succ hfuel), List.reverse_cons, List.append_assoc]
    rfl

/-- The items of an array are read up to its end. -/
theorem readItems_written (rest : Octets) :
    readItems item ((octets (",".intercalate (xs.map text)) ++ 0x5D :: rest).length + 1) true []
      (octets (",".intercalate (xs.map text)) ++ 0x5D :: rest) = .ok (xs, 0x5D :: rest) := by
  cases xs with
  | nil => rfl
  | cons x xs =>
    have hnonempty : ∀ t ∈ (x :: xs).map text, octets t ≠ [] := by
      intro t ht
      obtain ⟨y, hy, rfl⟩ := List.mem_map.mp ht
      obtain ⟨b, more, hcons, -⟩ := (h y hy).opens
      exact hcons ▸ List.cons_ne_nil b more
    have hlength := length_le_octets_commas hnonempty
    obtain ⟨hx, hxs⟩ := List.forall_mem_cons.mp h
    rw [List.length_map, List.length_cons] at hlength
    rw [List.map_cons, octets_commas] at hlength ⊢
    rw [readItems, List.append_assoc, nextItem_first (hx.opens.append _), ok_bind]
    dsimp only
    rw [hx.taken _ (follows_afterCommas (Or.inl rfl) _ rest), ok_bind]
    dsimp only
    rw [readItems_afterCommas hxs]
    · rfl
    · rw [List.length_append] at hlength ⊢
      rw [List.length_append]
      omega

end Items

theorem octets_writeArray (texts : List String) :
    octets (writeArray texts) = 0x5B :: (octets (",".intercalate texts) ++ [0x5D]) := by
  rw [writeArray, Text.octets_append, Text.octets_append]
  rfl

/-! ## Objects -/

theorem octets_writeMember (m : String × String) :
    octets (writeMember m) =
      0x22 :: (escapedOctets m.1.toList ++ 0x22 :: 0x3A :: octets m.2) := by
  have hcolon : octets ":" = [0x3A] := rfl
  rw [writeMember, Text.octets_append, Text.octets_append, octets_writeString, hcolon]
  simp

theorem octets_writeObject (members : List (String × String)) :
    octets (writeObject members) =
      0x7B :: (octets (",".intercalate (members.map writeMember)) ++ [0x7D]) := by
  rw [writeObject, Text.octets_append, Text.octets_append]
  rfl

theorem readKey_written (key : String) (rest : Octets) :
    readKey (escapedOctets key.toList ++ 0x22 :: rest) = .ok (some key, rest) := by
  rw [readKey, readString_written]
  rfl

theorem nextKey_first (key : String) (rest : Octets) :
    nextKey true (0x22 :: (escapedOctets key.toList ++ 0x22 :: rest)) = .ok (some key, rest) :=
  readKey_written key rest

theorem nextKey_comma (key : String) (rest : Octets) :
    nextKey false (0x2C :: 0x22 :: (escapedOctets key.toList ++ 0x22 :: rest)) =
      .ok (some key, rest) :=
  readKey_written key rest

theorem readColon_colon (rest : Octets) : readColon (0x3A :: rest) = .ok rest := rfl

/-- Reading members one after the other leads from one state to another. -/
inductive Folds (member : σ → String → Octets → Decoded (σ × Octets)) :
    σ → List (String × String) → σ → Prop where
  | nil (s : σ) : Folds member s [] s
  | cons {s next last : σ} {key text : String} {more : List (String × String)}
      (h : ∀ rest, Follows rest →
        member s key (0x3A :: (octets text ++ rest)) = .ok (next, rest))
      (hmore : Folds member next more last) : Folds member s ((key, text) :: more) last

section Members

variable {member : σ → String → Octets → Decoded (σ × Octets)} {s last : σ}
  {members : List (String × String)}

theorem foldMembers_afterCommas (h : Folds member s members last) {fuel : Nat}
    (hfuel : members.length < fuel) (rest : Octets) :
    foldMembers member fuel false s (afterCommas (members.map writeMember) ++ 0x7D :: rest) =
      .ok (last, 0x7D :: rest) := by
  induction h generalizing fuel with
  | nil s =>
    obtain ⟨fuel, rfl⟩ := Nat.exists_eq_add_one.mpr hfuel
    rfl
  | @cons s next last key text more h _ ih =>
    obtain ⟨fuel, rfl⟩ := Nat.exists_eq_add_one.mpr (Nat.zero_lt_of_lt hfuel)
    have hmembers : afterCommas (((key, text) :: more).map writeMember) ++ 0x7D :: rest =
        0x2C :: 0x22 :: (escapedOctets key.toList ++ 0x22 :: 0x3A :: (octets text ++
          (afterCommas (more.map writeMember) ++ 0x7D :: rest))) := by
      simp [afterCommas, octets_writeMember]
    rw [hmembers, foldMembers, nextKey_comma, ok_bind]
    dsimp only
    rw [h _ (follows_afterCommas (Or.inr rfl) _ rest), ok_bind]
    exact ih (Nat.lt_of_succ_lt_succ hfuel)

/-- The members of an object are read up to its end. -/
theorem foldMembers_written (h : Folds member s members last) (rest : Octets) :
    foldMembers member
      ((octets (",".intercalate (members.map writeMember)) ++ 0x7D :: rest).length + 1) true s
      (octets (",".intercalate (members.map writeMember)) ++ 0x7D :: rest) =
      .ok (last, 0x7D :: rest) := by
  cases h with
  | nil s => rfl
  | @cons _ next _ key text more h hmore =>
    have hnonempty : ∀ t ∈ ((key, text) :: more).map writeMember, octets t ≠ [] := by
      intro t ht
      obtain ⟨m, -, rfl⟩ := List.mem_map.mp ht
      exact octets_writeMember m ▸ List.cons_ne_nil _ _
    have hlength := length_le_octets_commas hnonempty
    have hmember : octets (writeMember (key, text)) ++ (afterCommas (more.map writeMember) ++
        0x7D :: rest) = 0x22 :: (escapedOctets key.toList ++ 0x22 :: 0x3A :: (octets text ++
          (afterCommas (more.map writeMember) ++ 0x7D :: rest))) := by
      simp [octets_writeMember]
    rw [List.length_map, List.length_cons] at hlength
    rw [List.map_cons, octets_commas] at hlength ⊢
    rw [foldMembers, List.append_assoc, hmember, nextKey_first, ok_bind]
    dsimp only
    rw [h _ (follows_afterCommas (Or.inr rfl) _ rest), ok_bind]
    refine foldMembers_afterCommas hmore ?_ rest
    rw [← hmember, List.length_append]
    rw [List.length_append] at hlength
    rw [List.length_append]
    omega

end Members

/-! ## Scalars -/

theorem ne_of_isDigit {b c : UInt8} (hb : isDigit b = true) (hc : isDigit c = false) : b ≠ c := by
  rintro rfl
  exact Bool.false_ne_true (hc.symm.trans hb)

theorem opens_writeString (s : String) : Opens (octets (writeString s)) := by
  rw [octets_writeString]
  exact ⟨0x22, _, rfl, by decide, by decide⟩

theorem opens_digitOctets (n : Nat) : Opens (digitOctets n) := by
  obtain ⟨b, more, hdigits, hb⟩ := digitOctets_eq_cons n
  exact hdigits ▸ opens_of_isDigit hb more

theorem opens_toString_int (n : Int) : Opens (octets (toString n)) := by
  rw [octets_toString_int]
  split
  next => exact ⟨0x2D, _, rfl, by decide, by decide⟩
  next => exact opens_digitOctets n.natAbs

section Scalars

variable (nested : Option (Octets → Decoded (Json × Octets)))

theorem spells_null : Spells (readValueWith nested) "null" .null where
  opens := ⟨0x6E, _, rfl, by decide, by decide⟩
  taken _ _ := rfl

theorem spells_bool (b : Bool) :
    Spells (readValueWith nested) (if b then "true" else "false") (.bool b) := by
  cases b with
  | true => exact ⟨⟨0x74, _, rfl, by decide, by decide⟩, fun _ _ => rfl⟩
  | false => exact ⟨⟨0x66, _, rfl, by decide, by decide⟩, fun _ _ => rfl⟩

theorem spells_str (s : String) : Spells (readValueWith nested) (writeString s) (.str s) where
  opens := opens_writeString s
  taken rest _ := by
    have hquote : isBlankOctet 0x22 = false := by decide
    have hdigit : isDigit 0x22 = false := by decide
    have htext : octets (writeString s) ++ rest =
        0x22 :: (escapedOctets s.toList ++ 0x22 :: rest) := by
      simp [octets_writeString]
    simp [htext, readValueWith, skipBlanks_cons hquote, hdigit, readString_written]

theorem spells_whole (n : Int) (bounds : leastWhole ≤ n ∧ n ≤ greatestWhole) :
    Spells (readValueWith nested) (toString n) (.num (.whole n bounds)) where
  opens := opens_toString_int n
  taken rest h := by
    have hread := readNumber_whole bounds h
    rw [octets_toString_int]
    split
    next hneg =>
      have hminus : isBlankOctet 0x2D = false := by decide
      rw [decide_eq_true hneg] at hread
      simp [readValueWith, skipBlanks_cons hminus, hread]
    next hpos =>
      obtain ⟨b, more, hdigits, hb⟩ := digitOctets_eq_cons n.natAbs
      obtain ⟨c, cs, hcons, hblank, -⟩ := opens_of_isDigit hb more
      obtain ⟨rfl, rfl⟩ := List.cons_eq_cons.mp hcons
      rw [decide_eq_false hpos, hdigits, List.cons_append] at hread
      rw [hdigits, List.cons_append, readValueWith, skipBlanks_cons hblank]
      dsimp only
      rw [if_neg (ne_of_isDigit hb (by decide)), if_neg (ne_of_isDigit hb (by decide)),
        if_neg (ne_of_isDigit hb (by decide)), if_neg (ne_of_isDigit hb (by decide)), if_pos hb,
        hread]
      rfl

end Scalars

/-! ## Values of any kind -/

theorem readValue_eq_with (depth : Nat) : ∃ nested, readValue depth = readValueWith nested := by
  cases depth with
  | zero => exact ⟨none, rfl⟩
  | succ depth => exact ⟨some (readValue depth), rfl⟩

theorem spells_arr {depth : Nat} {items : List Json}
    (h : ∀ v ∈ items, Spells (readValue depth) v.write v) :
    Spells (readValue (depth + 1)) (writeArray (items.map write)) (.arr items) where
  opens := octets_writeArray _ ▸ ⟨0x5B, _, rfl, by decide, by decide⟩
  taken rest _ := by
    have hbracket : isBlankOctet 0x5B = false := by decide
    have hdigit : isDigit 0x5B = false := by decide
    have htext : octets (writeArray (items.map write)) ++ rest =
        0x5B :: (octets (",".intercalate (items.map write)) ++ 0x5D :: rest) := by
      simp [octets_writeArray]
    rw [htext, readValue_succ]
    simp only [readValueWith, skipBlanks_cons hbracket, hdigit]
    rw [readItems_written h rest, ok_bind]
    rfl

/-- A member that is read is put in its place. -/
theorem folds_insertMember {depth : Nat} {own members : List (String × Json)}
    (hkeys : SortedKeys (own ++ members))
    (h : ∀ m ∈ members, Spells (readValue depth) m.2.write m.2) :
    Folds (fun ms key bs => do
        let (v, rest) ← readValue depth (← readColon bs)
        return (insertMember key v ms, rest))
      own (members.map fun m => (m.1, m.2.write)) (own ++ members) := by
  induction members generalizing own with
  | nil => exact (List.append_nil own).symm ▸ Folds.nil own
  | cons m members ih =>
    obtain ⟨hm, hmembers⟩ := List.forall_mem_cons.mp h
    have hlast : ∀ k ∈ own, k.1 < m.1 := by
      intro k hk
      rw [SortedKeys, List.map_append, List.pairwise_append] at hkeys
      exact hkeys.2.2 k.1 (List.mem_map_of_mem hk) m.1 List.mem_cons_self
    have hmore : own ++ m :: members = (own ++ [m]) ++ members := by simp
    rw [hmore] at hkeys ⊢
    refine Folds.cons (fun rest hrest => ?_) (ih hkeys hmembers)
    rw [readColon_colon, ok_bind, hm.taken rest hrest, ok_bind, ← insertMember_of_lt m.2 hlast]
    rfl

theorem spells_obj {depth : Nat} {members : List (String × Json)} (hkeys : SortedKeys members)
    (h : ∀ m ∈ members, Spells (readValue depth) m.2.write m.2) :
    Spells (readValue (depth + 1)) (writeObject (members.map fun m => (m.1, m.2.write)))
      (.obj members) where
  opens := octets_writeObject _ ▸ ⟨0x7B, _, rfl, by decide, by decide⟩
  taken rest _ := by
    have hbracket : isBlankOctet 0x7B = false := by decide
    have hdigit : isDigit 0x7B = false := by decide
    have htext : octets (writeObject (members.map fun m => (m.1, m.2.write))) ++ rest =
        0x7B :: (octets (",".intercalate ((members.map fun m => (m.1, m.2.write)).map
          writeMember)) ++ 0x7D :: rest) := by
      simp [octets_writeObject]
    rw [htext, readValue_succ]
    simp only [readValueWith, skipBlanks_cons hbracket, hdigit]
    have hfolds := folds_insertMember ((List.nil_append members).symm ▸ hkeys) h
    rw [foldMembers_written hfolds rest, ok_bind]
    rfl

/-- What a value is written as is read as that value. -/
theorem spells_write {v : Json} (hwhole : v.Whole) {depth : Nat} (hfits : v.Fits depth) :
    Spells (readValue depth) v.write v := by
  obtain ⟨nested, hread⟩ := readValue_eq_with depth
  induction hwhole generalizing depth nested with
  | null =>
    rw [hread, write]
    exact spells_null nested
  | bool b =>
    rw [hread, write]
    exact spells_bool nested b
  | num n bounds =>
    rw [hread, write]
    exact spells_whole nested n bounds
  | str s =>
    rw [hread, write]
    exact spells_str nested s
  | arr _ ih =>
    obtain ⟨inner, rfl, hitems⟩ := hfits.of_arr
    rw [write, writeItems_eq_map]
    refine spells_arr fun v hv => ?_
    obtain ⟨nested, hread⟩ := readValue_eq_with inner
    exact ih v hv (hitems v hv) nested hread
  | obj _ ih =>
    obtain ⟨inner, rfl, hkeys, hmembers⟩ := hfits.of_obj
    rw [write, writeMembers_eq_map]
    refine spells_obj hkeys fun m hm => ?_
    obtain ⟨nested, hread⟩ := readValue_eq_with inner
    exact ih m hm (hmembers m hm) nested hread

end PlatformLink.Json
