import PlatformLink.Json.Tagged
import PlatformLink.Proofs.Json.Spelling

/-!
# Faithful codecs

A codec is faithful when it reads back each value it wrote, and writes each value it read so that it
can. Of a value that is written two things are asked: its JSON fits under the depth that a reader
allows and holds whole numbers only, and the value meets a condition, which every value meets that
was read. Where `null` stands for a missing value, the condition is that no value is written as
`null` itself.

The depth counts from `least` on: below it a value can be read that is nested deeper as it is
written, since a list that was missing is written as an empty one.
-/

namespace PlatformLink.Json

open Text (Octets octets)

variable {α β σ : Type}

/-! ## What readers give -/

/-- What is read meets `P`. -/
def Gives (P : α → Prop) (x : Decoded α) : Prop :=
  ∀ a, x = .ok a → P a

theorem gives_ok {P : α → Prop} {a : α} (h : P a) : Gives P (.ok a) := by
  rintro _ ⟨⟩
  exact h

theorem gives_error {P : α → Prop} (d : DecodeError) : Gives P (.error d) := nofun

theorem gives_fail {P : α → Prop} (m : Malformation) : Gives P (fail m) := gives_error _

theorem gives_of_forall {P : α → Prop} (h : ∀ a, P a) (x : Decoded α) : Gives P x :=
  fun a _ => h a

theorem Gives.bind {P : α → Prop} {Q : β → Prop} {x : Decoded α} {f : α → Decoded β}
    (hx : Gives P x) (hf : ∀ a, P a → Gives Q (f a)) : Gives Q (x >>= f) := by
  intro b hb
  obtain ⟨a, ha, hb⟩ := bind_eq_ok_iff.mp hb
  exact hf a (hx a ha) b hb

/-- A step after which nothing is known. -/
theorem gives_after {Q : β → Prop} (x : Decoded α) {f : α → Decoded β}
    (hf : ∀ a, Gives Q (f a)) : Gives Q (x >>= f) :=
  Gives.bind (P := fun _ => True) (fun _ _ => trivial) fun a _ => hf a

theorem gives_mismatch {P : α → Prop} (expected : String) (bs : Octets) :
    Gives P (mismatch expected bs) :=
  gives_after _ fun _ => gives_error _

theorem gives_nest {P : α → Prop} {depth : Nat} {inner : Nat → Decoded α}
    (h : ∀ d, depth = d + 1 → Gives P (inner d)) : Gives P (nest depth inner) := by
  cases depth with
  | zero => exact gives_fail _
  | succ d => exact h d rfl

theorem gives_readItems {P : α → Prop} {item : Octets → Decoded (α × Octets)}
    (h : ∀ bs, Gives (fun r => P r.1) (item bs)) (fuel : Nat) (first : Bool) {found : List α}
    (hfound : ∀ x ∈ found, P x) (bs : Octets) :
    Gives (fun r => ∀ x ∈ r.1, P x) (readItems item fuel first found bs) := by
  induction fuel generalizing first found bs with
  | zero => exact gives_fail _
  | succ fuel ih =>
    refine gives_after _ fun next => ?_
    split
    next => exact gives_ok fun x hx => hfound x (List.mem_reverse.mp hx)
    next =>
      refine Gives.bind (h _) fun r hr => ?_
      have hmore : ∀ x ∈ r.1 :: found, P x := List.forall_mem_cons.mpr ⟨hr, hfound⟩
      exact ih false hmore r.2

/-- What each member keeps holds at the end of an object. -/
theorem gives_foldMembers {P : σ → Prop} {member : σ → String → Octets → Decoded (σ × Octets)}
    (h : ∀ s key bs, P s → Gives (fun r => P r.1) (member s key bs)) (fuel : Nat) (first : Bool)
    {s : σ} (hs : P s) (bs : Octets) :
    Gives (fun r => P r.1) (foldMembers member fuel first s bs) := by
  induction fuel generalizing first s bs with
  | zero => exact gives_fail _
  | succ fuel ih =>
    refine gives_after _ fun next => ?_
    split
    next => exact gives_ok hs
    next key rest => exact Gives.bind (h s key rest hs) fun r hr => ih false hr r.2

/-- A value that is read fits where it is read. -/
theorem gives_readValueWith {depth : Nat} {nested : Option (Octets → Decoded (Json × Octets))}
    (h : ∀ read, nested = some read →
      ∃ inner, depth = inner + 1 ∧ ∀ bs, Gives (fun r => r.1.Fits inner) (read bs))
    (bs : Octets) : Gives (fun r => r.1.Fits depth) (readValueWith nested bs) := by
  unfold readValueWith
  split
  next => exact gives_fail _
  next =>
    split
    next => exact gives_after _ fun _ => gives_ok (fits_null depth)
    next =>
    split
    next => exact gives_after _ fun _ => gives_ok (fits_bool depth true)
    next =>
    split
    next => exact gives_after _ fun _ => gives_ok (fits_bool depth false)
    next =>
    split
    next => exact gives_after _ fun r => gives_ok (fits_num depth r.1)
    next =>
    split
    next => exact gives_after _ fun r => gives_ok (fits_num depth r.1)
    next =>
    split
    next => exact gives_after _ fun r => gives_ok (fits_str depth r.1)
    next =>
    split
    next =>
      split
      next => exact gives_fail _
      next read =>
        obtain ⟨inner, rfl, hread⟩ := h read rfl
        refine Gives.bind (gives_readItems hread _ true (List.forall_mem_nil _) _) fun r hr => ?_
        exact gives_after _ fun _ => gives_ok (fits_arr hr)
    next =>
    split
    next =>
      split
      next => exact gives_fail _
      next read =>
        obtain ⟨inner, rfl, hread⟩ := h read rfl
        have hmember : ∀ (ms : List (String × Json)) (key : String) (bs : Octets),
            (SortedKeys ms ∧ ∀ m ∈ ms, m.2.Fits inner) →
            Gives (fun r => SortedKeys r.1 ∧ ∀ m ∈ r.1, m.2.Fits inner)
              (readColon bs >>= fun rest => read rest >>= fun r =>
                pure (insertMember key r.1 ms, r.2)) := by
          intro ms key bs hms
          refine gives_after _ fun rest => Gives.bind (hread rest) fun r hr => ?_
          refine gives_ok ⟨sortedKeys_insertMember key r.1 hms.1, fun m hm => ?_⟩
          rcases mem_insertMember hm with rfl | hm
          · exact hr
          · exact hms.2 m hm
        have hmembers := gives_foldMembers hmember
        refine Gives.bind (hmembers _ true (s := []) ⟨.nil, List.forall_mem_nil _⟩ _) fun r hr => ?_
        exact gives_after _ fun _ => gives_ok (fits_obj hr.1 hr.2)
    next => exact gives_fail _

theorem gives_readValue (depth : Nat) (bs : Octets) :
    Gives (fun r => r.1.Fits depth) (readValue depth bs) := by
  induction depth generalizing bs with
  | zero =>
    refine gives_readValueWith ?_ bs
    nofun
  | succ depth ih =>
    refine gives_readValueWith (fun read hread => ⟨depth, rfl, ?_⟩) bs
    rw [← Option.some.inj hread]
    exact ih

/-! ## Faithful codecs -/

/-- The value is what the codec reads from some octets. -/
def Codec.Readable (c : Codec α) (depth : Nat) (x : α) : Prop :=
  ∃ bs rest, c.read depth bs = .ok (x, rest)

structure Codec.Faithful (c : Codec α) (least : Nat) (P : α → Prop) : Prop where
  gives : ∀ {depth : Nat} (bs : Octets), least ≤ depth →
    Gives (fun r => (c.toJson r.1).Fits depth ∧ P r.1) (c.read depth bs)
  spells : ∀ {depth : Nat} {x : α}, (c.toJson x).Fits depth → (c.toJson x).Whole → P x →
    Spells (c.read depth) (c.write x) x

namespace Codec

variable {c : Codec α} {least : Nat} {P Q : α → Prop}

theorem Faithful.fits (h : c.Faithful least P) {depth : Nat} (hleast : least ≤ depth) {x : α}
    (hx : c.Readable depth x) : (c.toJson x).Fits depth ∧ P x := by
  obtain ⟨bs, rest, hread⟩ := hx
  exact h.gives bs hleast (x, rest) hread

theorem Faithful.mono (h : c.Faithful least P) {more : Nat} (hmore : least ≤ more) :
    c.Faithful more P :=
  ⟨fun bs hleast => h.gives bs (Nat.le_trans hmore hleast), h.spells⟩

theorem Faithful.congr (h : c.Faithful least P) (hPQ : ∀ x, P x ↔ Q x) : c.Faithful least Q :=
  (funext fun x => propext (hPQ x) : P = Q) ▸ h

theorem faithful_json : json.Faithful 0 fun _ => True where
  gives {depth} bs _ r hr := ⟨gives_readValue depth bs r hr, trivial⟩
  spells hfits hwhole _ := spells_write hwhole hfits

theorem faithful_text : text.Faithful 0 fun _ => True where
  gives _ _ := gives_of_forall (fun _ => ⟨fits_str _ _, trivial⟩) _
  spells {_ s} _ _ _ :=
    { opens := opens_writeString s
      taken := fun rest _ => by
        have hquote : isBlankOctet 0x22 = false := by decide
        have htext : octets (writeString s) ++ rest =
            0x22 :: (escapedOctets s.toList ++ 0x22 :: rest) := by
          simp [octets_writeString]
        simp [text, readTextAs, htext, skipBlanks_cons hquote, readString_written] }

/-! ### Whole numbers below a bound -/

theorem readNatBelow_written {bound n : Nat} (hn : n < bound) (hbound : bound ≤ UInt64.size)
    (expected : String) {rest : Octets} (h : Follows rest) :
    readNatBelow bound expected (octets (toString n) ++ rest) = .ok (n, rest) := by
  have hrange : leastWhole ≤ (n : Int) ∧ (n : Int) ≤ greatestWhole := by
    simp only [leastWhole, greatestWhole, UInt64.size] at *
    omega
  have hread := readNumber_whole hrange h
  have hpos : ¬(n : Int) < 0 := by omega
  obtain ⟨b, more, hdigits, hb⟩ := digitOctets_eq_cons n
  obtain ⟨c, cs, hcons, hblank, -⟩ := opens_of_isDigit hb more
  obtain ⟨rfl, rfl⟩ := List.cons_eq_cons.mp hcons
  rw [decide_eq_false hpos, Int.natAbs_natCast, hdigits, List.cons_append] at hread
  have hbelow : natBelow bound expected (.whole n hrange) = .ok n := by
    rw [natBelow, if_pos (by omega), Int.toNat_natCast]
  rw [octets_toString_nat, hdigits, List.cons_append, readNatBelow, skipBlanks_cons hblank]
  dsimp only
  rw [if_neg (ne_of_isDigit hb (by decide)), if_pos hb, hread, ok_bind]
  dsimp only
  rw [hbelow, ok_bind]
  rfl

theorem opens_toString_nat (n : Nat) : Opens (octets (toString n)) :=
  octets_toString_nat n ▸ opens_digitOctets n

theorem faithful_uint32 : uint32.Faithful 0 fun _ => True where
  gives _ _ := gives_of_forall (fun _ => ⟨fits_num _ _, trivial⟩) _
  spells {_ n} _ _ _ :=
    { opens := opens_toString_nat n.toNat
      taken := fun rest hrest => by
        have hsize : UInt32.size ≤ UInt64.size := by decide
        simp only [uint32]
        rw [readNatBelow_written n.toNat_lt hsize "u32" hrest, ok_bind]
        simp [pure, Except.pure] }

theorem faithful_uint64 : uint64.Faithful 0 fun _ => True where
  gives _ _ := gives_of_forall (fun _ => ⟨fits_num _ _, trivial⟩) _
  spells {_ n} _ _ _ :=
    { opens := opens_toString_nat n.toNat
      taken := fun rest hrest => by
        simp only [uint64]
        rw [readNatBelow_written n.toNat_lt le_rfl "u64" hrest, ok_bind]
        simp [pure, Except.pure] }

/-! ### Named values -/

theorem variant_of_find? {variants : List (String × α)} {name : String} {x : α}
    (h : variants.find? (·.1 == name) = some (name, x)) : variant variants name = .ok x := by
  rw [variant, h]

theorem spells_choice {variants : List (String × α)} {name : α → String} {x : α}
    (h : variants.find? (·.1 == name x) = some (name x, x)) (depth : Nat) :
    Spells ((choice variants name).read depth) (writeString (name x)) x where
  opens := opens_writeString (name x)
  taken rest _ := by
    have hquote : isBlankOctet 0x22 = false := by decide
    have htext : octets (writeString (name x)) ++ rest =
        0x22 :: (escapedOctets (name x).toList ++ 0x22 :: rest) := by
      simp [octets_writeString]
    simp only [choice, htext, skipBlanks_cons hquote, if_true]
    rw [readString_written, ok_bind]
    dsimp only
    rw [variant_of_find? h]
    rfl

/-- Each value is found by its own name. -/
theorem faithful_choice {variants : List (String × α)} {name : α → String}
    (h : ∀ x, variants.find? (·.1 == name x) = some (name x, x)) :
    (choice variants name).Faithful 0 fun _ => True where
  gives _ _ := gives_of_forall (fun _ => ⟨fits_str _ _, trivial⟩) _
  spells {depth x} _ _ _ := spells_choice (h x) depth

/-! ### Lists -/

/-- A list is read from the texts that its items are read from. -/
theorem spells_list {inner : Nat} {text : α → String} {xs : List α}
    (h : ∀ x ∈ xs, Spells (c.read inner) (text x) x) :
    Spells ((list c).read (inner + 1)) (writeArray (xs.map text)) xs where
  opens := octets_writeArray _ ▸ ⟨0x5B, _, rfl, by decide, by decide⟩
  taken rest _ := by
    have hbracket : isBlankOctet 0x5B = false := by decide
    have htext : octets (writeArray (xs.map text)) ++ rest =
        0x5B :: (octets (",".intercalate (xs.map text)) ++ 0x5D :: rest) := by
      simp [octets_writeArray]
    simp only [list, htext, skipBlanks_cons hbracket, if_true, nest_succ]
    rw [readItems_written h rest, ok_bind]
    rfl

theorem faithful_list (h : c.Faithful (least - 1) P) :
    (list c).Faithful least fun xs => ∀ x ∈ xs, P x where
  gives {depth} bs hleast := by
    unfold list
    dsimp only
    split
    next => exact gives_fail _
    next =>
      split
      next =>
        refine gives_nest fun inner hinner => ?_
        subst hinner
        have hitem := fun bs => h.gives bs (Nat.sub_le_of_le_add hleast)
        have hitems (fuel : Nat) (rest : Octets) :=
          gives_readItems (P := fun x => (c.toJson x).Fits inner ∧ P x) hitem fuel true
            (List.forall_mem_nil _) rest
        refine (hitems _ _).bind fun r hr => ?_
        refine gives_after _ fun _ => gives_ok ⟨fits_arr fun v hv => ?_, fun x hx => (hr x hx).2⟩
        obtain ⟨x, hx, rfl⟩ := List.mem_map.mp hv
        exact (hr x hx).1
      next => exact gives_mismatch _ _
  spells {depth xs} hfits hwhole hP := by
    obtain ⟨inner, rfl, hinner⟩ := hfits.of_arr
    refine spells_list fun x hx => ?_
    exact h.spells (hinner _ (List.mem_map_of_mem hx)) (hwhole.items _ (List.mem_map_of_mem hx))
      (hP x hx)

/-! ### Values that may be missing -/

/-- Only `null` is read, or written, where an `n` stands first. -/
structure Solid (c : Codec α) : Prop where
  read : ∀ (depth : Nat) {b : UInt8} (rest : Octets), isBlankOctet b = false → b ≠ 0x6E →
    Gives (fun r => c.toJson r.1 ≠ .null) (c.read depth (b :: rest))
  written : ∀ x, (c.toJson x).Whole → c.toJson x ≠ .null →
    (octets (c.write x)).head? ≠ some 0x6E

theorem solid_text : text.Solid where
  read _ _ _ _ _ := gives_of_forall (fun _ => nofun) _
  written s _ _ := by
    show (octets (writeString s)).head? ≠ some 0x6E
    simp [octets_writeString]

theorem solid_json : json.Solid where
  read depth b rest hblank hb := by
    obtain ⟨nested, hread⟩ := readValue_eq_with depth
    show Gives _ (readValue depth (b :: rest))
    rw [hread, readValueWith, skipBlanks_cons hblank]
    dsimp only
    rw [if_neg hb]
    split
    next => exact gives_after _ fun _ => gives_ok (by rintro ⟨⟩)
    next =>
    split
    next => exact gives_after _ fun _ => gives_ok (by rintro ⟨⟩)
    next =>
    split
    next => exact gives_after _ fun _ => gives_ok (by rintro ⟨⟩)
    next =>
    split
    next => exact gives_after _ fun _ => gives_ok (by rintro ⟨⟩)
    next =>
    split
    next => exact gives_after _ fun _ => gives_ok (by rintro ⟨⟩)
    next =>
    split
    next =>
      split
      next => exact gives_fail _
      next => exact gives_after _ fun _ => gives_after _ fun _ => gives_ok (by rintro ⟨⟩)
    next =>
    split
    next =>
      split
      next => exact gives_fail _
      next => exact gives_after _ fun _ => gives_after _ fun _ => gives_ok (by rintro ⟨⟩)
    next => exact gives_fail _
  written v hwhole hv := by
    show (octets v.write).head? ≠ some 0x6E
    cases hwhole with
    | null => exact absurd rfl hv
    | bool b => cases b <;> decide
    | num n bounds =>
      show (octets (toString n)).head? ≠ some 0x6E
      rw [octets_toString_int]
      split
      next => simp
      next =>
        obtain ⟨b, more, hdigits, hb⟩ := digitOctets_eq_cons n.natAbs
        rw [hdigits]
        exact fun hhead => ne_of_isDigit hb (by decide) (Option.some.inj hhead)
    | str s => simp [Json.write, octets_writeString]
    | arr _ => simp [Json.write, octets_writeArray]
    | obj _ => simp [Json.write, octets_writeObject]

theorem isBlankOctet_of_skipBlanks {bs rest : Octets} {b : UInt8}
    (h : skipBlanks bs = b :: rest) : isBlankOctet b = false := by
  have hhead := List.head?_dropWhile_not isBlankOctet bs
  rw [← skipBlanks, h] at hhead
  simpa using hhead

theorem spells_none (depth : Nat) : Spells (c.option.read depth) "null" none :=
  ⟨⟨0x6E, _, rfl, by decide, by decide⟩, fun _ _ => rfl⟩

theorem spells_some {depth : Nat} {text : String} {x : α} (h : Spells (c.read depth) text x)
    (hhead : (octets text).head? ≠ some 0x6E) : Spells (c.option.read depth) text (some x) where
  opens := h.opens
  taken rest hrest := by
    have htaken := h.taken rest hrest
    obtain ⟨b, more, hopens, hblank, -⟩ := h.opens
    have hb : b ≠ 0x6E := fun heq => hhead (by rw [hopens, heq, List.head?_cons])
    rw [hopens, List.cons_append] at htaken ⊢
    rw [option]
    simp only [skipBlanks_cons hblank, if_neg hb]
    rw [htaken, ok_bind]
    rfl

theorem faithful_option (h : c.Faithful least P) (hsolid : c.Solid) :
    c.option.Faithful least fun o => ∀ x ∈ o, c.toJson x ≠ .null ∧ P x where
  gives {depth} bs hleast := by
    unfold option
    dsimp only
    split
    next => exact gives_fail _
    next b rest hbs =>
      split
      next => exact gives_after _ fun _ => gives_ok ⟨fits_null depth, nofun⟩
      next hb =>
        have hnull := hsolid.read depth rest (isBlankOctet_of_skipBlanks hbs) hb
        have hboth : Gives (fun r => c.toJson r.1 ≠ .null ∧ (c.toJson r.1).Fits depth ∧ P r.1)
            (c.read depth (b :: rest)) := fun r hr => ⟨hnull r hr, h.gives _ hleast r hr⟩
        refine Gives.bind hboth fun r hr => gives_ok ⟨hr.2.1, fun x hx => ?_⟩
        rw [← Option.some.inj hx]
        exact ⟨hr.1, hr.2.2⟩
  spells {depth o} hfits hwhole hP := by
    cases o with
    | none => exact spells_none depth
    | some x =>
      obtain ⟨hnull, hPx⟩ := hP x rfl
      exact spells_some (h.spells hfits hwhole hPx) (hsolid.written x hwhole hnull)

/-! ## Whole texts -/

theorem readable_of_decode {t : String} {x : α} (h : c.decode t = .ok x) :
    c.Readable greatestDepth x := by
  obtain ⟨⟨y, rest⟩, hread, h⟩ := bind_eq_ok_iff.mp h
  obtain ⟨_, _, h⟩ := bind_eq_ok_iff.mp h
  obtain rfl := Except.ok.inj h
  exact ⟨octets t, rest, hread⟩

theorem decode_of_spells {t : String} {x : α} (h : Spells (c.read greatestDepth) t x) :
    c.decode t = .ok x := by
  have htaken := h.taken [] follows_nil
  rw [List.append_nil] at htaken
  rw [decode, decodeOctets, readText, htaken, ok_bind]
  rfl

/-- What was decoded can be written and decoded again. -/
theorem Faithful.decode_write (h : c.Faithful least P) (hleast : least ≤ greatestDepth) {t : String}
    {x : α} (ht : c.decode t = .ok x) (hwhole : (c.toJson x).Whole) :
    c.decode (c.write x) = .ok x := by
  obtain ⟨hfits, hP⟩ := h.fits hleast (readable_of_decode ht)
  exact decode_of_spells (h.spells hfits hwhole hP)

/-- Just the values that fit and meet the condition are decoded from what they are written as. -/
theorem Faithful.decode_write_iff (h : c.Faithful least P) (hleast : least ≤ greatestDepth) {x : α}
    (hsorted : (c.toJson x).Sorted) (hwhole : (c.toJson x).Whole) :
    c.decode (c.write x) = .ok x ↔ (c.toJson x).Within greatestDepth ∧ P x := by
  constructor
  · intro hdecode
    obtain ⟨hfits, hP⟩ := h.fits hleast (readable_of_decode hdecode)
    exact ⟨hfits.within, hP⟩
  · rintro ⟨hwithin, hP⟩
    exact decode_of_spells (h.spells ⟨hwithin, hsorted⟩ hwhole hP)

end Codec

end PlatformLink.Json
