import PlatformLink.Json.Tagged
import PlatformLink.Proofs.Json.Wording

/-!
# Reading is candid

`Meets P` says of a reader that it fails with candid errors only, and that what it gives meets `P`.
It is closed under the steps that readers are composed of. Most readers fail with a malformation,
whose words are fixed; what is to be shown of the others is that a number they name is short.
-/

namespace PlatformLink.Json

open Text (HoldsToken Octets)

variable {α β : Type}

/-- What is read meets `P`, and a failure is candid. -/
def Meets (P : α → Prop) : Decoded α → Prop
  | .ok a => P a
  | .error d => d.Candid

/-- A failure is candid. -/
abbrev FailsCandidly (x : Decoded α) : Prop :=
  Meets (fun _ => True) x

theorem meets_fail {P : α → Prop} (m : Malformation) : Meets P (fail m : Decoded α) :=
  DecodeError.candid_malformed m

theorem Meets.mono {P Q : α → Prop} {x : Decoded α} (h : Meets P x) (hPQ : ∀ a, P a → Q a) :
    Meets Q x := by
  cases x with
  | ok a => exact hPQ a h
  | error d => exact h

theorem Meets.bind {P : α → Prop} {Q : β → Prop} {x : Decoded α} {f : α → Decoded β}
    (hx : Meets P x) (hf : ∀ a, P a → Meets Q (f a)) : Meets Q (x >>= f) := by
  cases x with
  | ok a => exact hf a hx
  | error d => exact hx

/-- A step after which nothing is known but that it did not fail. -/
theorem Meets.after {Q : β → Prop} {x : Decoded α} {f : α → Decoded β} (hx : FailsCandidly x)
    (hf : ∀ a, Meets Q (f a)) : Meets Q (x >>= f) :=
  Meets.bind hx fun a _ => hf a

/-! ## Words, numbers and strings -/

theorem failsCandidly_readWord (word : List UInt8) (bs : Octets) :
    FailsCandidly (readWord word bs) := by
  induction word generalizing bs with
  | nil => exact trivial
  | cons w ws ih =>
    cases bs with
    | nil => exact meets_fail _
    | cons b rest =>
      unfold readWord
      split
      next => exact ih rest
      next => exact meets_fail _

/-- A number whose wording is candid. -/
def Number.Brief (n : Number) : Prop :=
  n.found.Candid

theorem brief_whole {n : Int} (h : leastWhole ≤ n ∧ n ≤ greatestWhole) :
    (Number.whole n h).Brief :=
  Found.candid_whole h

theorem brief_ofInt? {i : Int} {n : Number} (h : Number.ofInt? i = some n) : n.Brief := by
  unfold Number.ofInt? at h
  split at h
  next hi =>
    rw [← Option.some.inj h]
    exact brief_whole hi
  next => cases h

theorem meets_real (negative : Bool) (significand : Nat) (exponent : Int) (rest : Octets) :
    Meets (fun r => r.1.Brief) (real negative significand exponent rest) := by
  unfold real
  split
  next x hx => exact Found.candid_real (Decimal.Binary64.bounded_ofDecimal hx)
  next => exact meets_fail _

theorem meets_readExponent (negative : Bool) (significand : Nat) (exponent : Int) (bs : Octets) :
    Meets (fun r => r.1.Brief) (readExponent negative significand exponent bs) := by
  have hdigits : ∀ (down : Bool) (e : Nat) (rest : Octets), Meets (fun r => r.1.Brief)
      (if greatestWrittenExponent < e then
        if significand ≠ 0 ∧ !down then fail .numberTooLarge
        else .ok (.real (.zero negative), rest)
      else real negative significand (if down then exponent - e else exponent + e) rest) := by
    intro down e rest
    split
    next =>
      split
      next => exact meets_fail _
      next => exact Found.candid_real (Decimal.Binary64.bounded_zero negative)
    next => exact meets_real negative significand _ rest
  unfold readExponent
  dsimp only
  split
  next => exact meets_fail _
  next => exact meets_fail _
  next => exact hdigits _ _ _

theorem meets_readFraction (negative : Bool) (significand : Nat) (exponent : Int) (bs : Octets) :
    Meets (fun r => r.1.Brief) (readFraction negative significand exponent bs) := by
  unfold readFraction
  split
  next => exact meets_fail _
  next => exact meets_fail _
  next =>
    dsimp only
    split
    next =>
      split
      next => exact meets_readExponent negative _ _ _
      next => exact meets_real negative _ _ _
    next => exact meets_real negative _ _ _

theorem meets_wholeOrReal (negative : Bool) (significand : Nat) (rest : Octets) :
    Meets (fun r => r.1.Brief) (wholeOrReal negative significand rest) := by
  unfold wholeOrReal
  split
  next =>
    split
    next => exact meets_real true 0 0 rest
    next =>
      split
      next n hn => exact brief_ofInt? hn
      next => exact meets_real true significand 0 rest
  next =>
    split
    next n hn => exact brief_ofInt? hn
    next => exact meets_real false significand 0 rest

theorem meets_readAfterWhole (negative : Bool) (significand : Nat) (left : List Nat)
    (bs : Octets) :
    Meets (fun r => r.1.Brief) (readAfterWhole negative significand left bs) := by
  have hplain : ∀ cs, Meets (fun r => r.1.Brief)
      (if left.isEmpty then wholeOrReal negative significand cs
        else real negative significand left.length cs) := by
    intro cs
    split
    next => exact meets_wholeOrReal negative significand cs
    next => exact meets_real negative significand _ cs
  unfold readAfterWhole
  dsimp only
  split
  next =>
    split
    next => exact meets_readFraction negative significand _ _
    next =>
      split
      next => exact meets_readExponent negative significand _ _
      next => exact hplain _
  next => exact hplain _

/-- A number that is read is brief. -/
theorem meets_readNumber (negative : Bool) (bs : Octets) :
    Meets (fun r => r.1.Brief) (readNumber negative bs) := by
  unfold readNumber
  split
  next => exact meets_fail _
  next =>
    split
    next =>
      split
      next =>
        split
        next => exact meets_fail _
        next => exact meets_readAfterWhole negative 0 [] _
      next => exact meets_readAfterWhole negative 0 [] []
    next =>
      split
      next => exact meets_readAfterWhole negative _ _ _
      next => exact meets_fail _

theorem failsCandidly_readStringFrom (s : StringState) (found bs : Octets) :
    FailsCandidly (readStringFrom s found bs) := by
  induction bs generalizing s found with
  | nil => exact meets_fail _
  | cons b rest ih =>
    unfold readStringFrom
    split
    next s' found' _ => exact ih s' found'
    next =>
      split
      next => exact trivial
      next => exact meets_fail _
    next => exact meets_fail _

theorem failsCandidly_readString (bs : Octets) : FailsCandidly (readString bs) :=
  failsCandidly_readStringFrom .plain [] bs

/-! ## Arrays and objects -/

theorem failsCandidly_nextItem (first : Bool) (bs : Octets) :
    FailsCandidly (nextItem first bs) := by
  unfold nextItem
  split
  next => exact meets_fail _
  next =>
    split
    next => exact trivial
    next =>
      split
      next =>
        split
        next => exact meets_fail _
        next => split <;> first | exact meets_fail _ | exact trivial
      next => split <;> first | exact meets_fail _ | exact trivial

theorem failsCandidly_endItems (bs : Octets) : FailsCandidly (endItems bs) := by
  unfold endItems
  split
  next => exact meets_fail _
  next =>
    split
    next => exact trivial
    next =>
      split
      next =>
        split
        next => split <;> exact meets_fail _
        next => exact meets_fail _
      next => exact meets_fail _

theorem failsCandidly_readKey (bs : Octets) : FailsCandidly (readKey bs) :=
  Meets.after (failsCandidly_readString bs) fun _ => trivial

theorem failsCandidly_nextKey (first : Bool) (bs : Octets) :
    FailsCandidly (nextKey first bs) := by
  unfold nextKey
  split
  next => exact meets_fail _
  next =>
    split
    next => exact trivial
    next =>
      split
      next =>
        split
        next => exact meets_fail _
        next =>
          split
          next => exact failsCandidly_readKey _
          next => split <;> exact meets_fail _
      next =>
        split
        next =>
          split
          next => exact failsCandidly_readKey _
          next => exact meets_fail _
        next => exact meets_fail _

theorem failsCandidly_endMembers (bs : Octets) : FailsCandidly (endMembers bs) := by
  unfold endMembers
  split
  next => exact meets_fail _
  next =>
    split
    next => exact trivial
    next => split <;> exact meets_fail _

theorem failsCandidly_readColon (bs : Octets) : FailsCandidly (readColon bs) := by
  unfold readColon
  split
  next => exact meets_fail _
  next => split <;> first | exact trivial | exact meets_fail _

theorem failsCandidly_readItems {item : Octets → Decoded (α × Octets)}
    (h : ∀ bs, FailsCandidly (item bs)) (fuel : Nat) (first : Bool) (found : List α)
    (bs : Octets) : FailsCandidly (readItems item fuel first found bs) := by
  induction fuel generalizing first found bs with
  | zero => exact meets_fail _
  | succ fuel ih =>
    refine Meets.after (failsCandidly_nextItem first bs) fun next => ?_
    split
    next => exact trivial
    next => exact Meets.after (h _) fun _ => ih _ _ _

/-- What each member keeps holds at the end of an object. -/
theorem meets_foldMembers {σ : Type} {P : σ → Prop}
    {member : σ → String → Octets → Decoded (σ × Octets)}
    (h : ∀ s key bs, P s → Meets (fun r => P r.1) (member s key bs)) (fuel : Nat) (first : Bool)
    {s : σ} (hs : P s) (bs : Octets) :
    Meets (fun r => P r.1) (foldMembers member fuel first s bs) := by
  induction fuel generalizing first s bs with
  | zero => exact meets_fail _
  | succ fuel ih =>
    refine Meets.after (failsCandidly_nextKey first bs) fun next => ?_
    split
    next => exact hs
    next key rest => exact Meets.bind (h s key rest hs) fun r hr => ih false hr r.2

/-! ## Values of any kind -/

/-- A reader of values of which each has a candid wording. -/
def ReadsBriefly (read : Octets → Decoded (Json × Octets)) : Prop :=
  ∀ bs, Meets (fun r => (found r.1).Candid) (read bs)

theorem ReadsBriefly.failsCandidly {read : Octets → Decoded (Json × Octets)}
    (h : ReadsBriefly read) (bs : Octets) : FailsCandidly (read bs) :=
  (h bs).mono fun _ _ => trivial

theorem readsBriefly_with {nested : Option (Octets → Decoded (Json × Octets))}
    (h : ∀ read, nested = some read → ReadsBriefly read) : ReadsBriefly (readValueWith nested) := by
  intro bs
  unfold readValueWith
  split
  next => exact meets_fail _
  next =>
    split
    next => exact Meets.after (failsCandidly_readWord _ _) fun _ => Found.candid_null
    next =>
    split
    next => exact Meets.after (failsCandidly_readWord _ _) fun _ => Found.candid_bool true
    next =>
    split
    next => exact Meets.after (failsCandidly_readWord _ _) fun _ => Found.candid_bool false
    next =>
    split
    next => exact Meets.bind (meets_readNumber true _) fun _ hn => hn
    next =>
    split
    next => exact Meets.bind (meets_readNumber false _) fun _ hn => hn
    next =>
    split
    next => exact Meets.after (failsCandidly_readString _) fun r => Found.candid_str r.1
    next =>
    split
    next =>
      split
      next => exact meets_fail _
      next read =>
        refine Meets.after (failsCandidly_readItems (h read rfl).failsCandidly _ _ _ _) fun r => ?_
        exact Meets.after (failsCandidly_endItems r.2) fun _ => Found.candid_sequence
    next =>
    split
    next =>
      split
      next => exact meets_fail _
      next read =>
        have hmember : ∀ (ms : List (String × Json)) (key : String) (bs : Octets), True →
            FailsCandidly (readColon bs >>= fun rest => read rest >>= fun r =>
              pure (insertMember key r.1 ms, r.2)) := by
          intro ms key bs _
          refine Meets.after (failsCandidly_readColon bs) fun rest => ?_
          exact Meets.after ((h read rfl).failsCandidly rest) fun _ => trivial
        refine Meets.after (meets_foldMembers hmember _ true trivial _) fun r => ?_
        exact Meets.after (failsCandidly_endMembers r.2) fun _ => Found.candid_map
    next => exact meets_fail _

theorem readsBriefly_readValue (depth : Nat) : ReadsBriefly (readValue depth) := by
  induction depth with
  | zero => exact readsBriefly_with nofun
  | succ depth ih =>
    refine readsBriefly_with fun read hread => ?_
    rw [← Option.some.inj hread]
    exact ih

/-! ## Values that are passed over -/

theorem failsCandidly_skipExponent (bs : Octets) : FailsCandidly (skipExponent bs) := by
  unfold skipExponent
  dsimp only
  split
  next => split <;> first | exact trivial | exact meets_fail _
  next => exact meets_fail _

theorem failsCandidly_skipFraction (bs : Octets) : FailsCandidly (skipFraction bs) := by
  unfold skipFraction
  split
  next => exact meets_fail _
  next => exact trivial
  next =>
    split
    next => exact failsCandidly_skipExponent _
    next => exact trivial

theorem failsCandidly_skipAfterWhole (bs : Octets) : FailsCandidly (skipAfterWhole bs) := by
  unfold skipAfterWhole
  split
  next =>
    split
    next => exact failsCandidly_skipFraction _
    next =>
      split
      next => exact failsCandidly_skipExponent _
      next => exact trivial
  next => exact trivial

theorem failsCandidly_skipNumber (bs : Octets) : FailsCandidly (skipNumber bs) := by
  unfold skipNumber
  split
  next => exact meets_fail _
  next =>
    split
    next =>
      split
      next =>
        split
        next => exact meets_fail _
        next => exact failsCandidly_skipAfterWhole _
      next => exact trivial
    next =>
      split
      next => exact failsCandidly_skipAfterWhole _
      next => exact meets_fail _

theorem failsCandidly_skipStringFrom (escaped : Bool) (due : Nat) (bad : Bool) (bs : Octets) :
    FailsCandidly (skipStringFrom escaped due bad bs) := by
  fun_induction skipStringFrom escaped due bad bs with
  | case1 => exact meets_fail _
  | case2 _ _ _ _ _ ih => exact ih
  | case3 _ _ _ _ ih => exact ih
  | case4 => exact meets_fail _
  | case5 => exact meets_fail _
  | case6 _ _ _ _ _ _ ih => exact ih
  | case7 => exact trivial
  | case8 _ _ _ ih => exact ih
  | case9 => exact meets_fail _
  | case10 _ _ _ _ _ _ ih => exact ih

theorem failsCandidly_skipScalar (bs : Octets) : FailsCandidly (skipScalar bs) := by
  unfold skipScalar
  split
  next => exact meets_fail _
  next =>
    split
    next => exact Meets.after (failsCandidly_readWord _ _) fun _ => trivial
    next =>
    split
    next => exact Meets.after (failsCandidly_readWord _ _) fun _ => trivial
    next =>
    split
    next => exact Meets.after (failsCandidly_readWord _ _) fun _ => trivial
    next =>
    split
    next => exact Meets.after (failsCandidly_skipNumber _) fun _ => trivial
    next =>
    split
    next => exact Meets.after (failsCandidly_skipNumber _) fun _ => trivial
    next =>
    split
    next => exact Meets.after (failsCandidly_skipStringFrom _ _ _ _) fun _ => trivial
    next => split <;> first | exact trivial | exact meets_fail _

theorem failsCandidly_skipKey (bs : Octets) : FailsCandidly (skipKey bs) := by
  unfold skipKey
  split
  next => exact meets_fail _
  next =>
    split
    next => exact Meets.after (failsCandidly_skipStringFrom _ _ _ _) failsCandidly_readColon
    next => exact meets_fail _

theorem failsCandidly_skipNested (fuel : Nat) (fresh : Bool) (opened : List UInt8) (bs : Octets) :
    FailsCandidly (skipNested fuel fresh opened bs) := by
  induction fuel generalizing fresh opened bs with
  | zero => exact meets_fail _
  | succ fuel ih =>
    cases opened with
    | nil => exact trivial
    | cons o outer =>
      unfold skipNested
      dsimp only
      split
      next => exact meets_fail _
      next =>
        -- Every branch passes over an item, with its key in an object, ends a bracket or fails.
        repeat' split
        all_goals first
          | exact meets_fail _
          | exact ih false outer _
          | refine Meets.after ?_ fun cs => Meets.after (failsCandidly_skipScalar cs) fun r => ?_
            · first
                | exact failsCandidly_skipKey _
                | exact trivial
            · split <;> exact ih _ _ _

theorem failsCandidly_skipValue (bs : Octets) : FailsCandidly (skipValue bs) := by
  refine Meets.after (failsCandidly_skipScalar bs) fun r => ?_
  split
  next => exact trivial
  next => exact failsCandidly_skipNested _ _ _ _

end PlatformLink.Json
