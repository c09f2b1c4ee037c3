import PlatformLink.Proofs.Text.Pieces
import PlatformLink.Proofs.Web.Percent
import PlatformLink.Web.Url.Basic

/-!
# The pairs of a query

A query is read as forms are: it is cut at each `&`, a piece is cut at its first `=`, and names and
values are decoded one by one. A pair that is added to a query, whatever the query holds, is read
behind all its pairs and leaves them as they are, since an encoded name or value has none of the
characters at which a query is cut.
-/

namespace PlatformLink.Web

open Text (Octets)

/-! ## Names and values -/

/-- What may stand in an encoded name or value. -/
def IsFormChar (c : Char) : Prop :=
  isFormPlain c = true ∨ c = '+' ∨ c = '%'

theorem isFormPlain_of_mem_upperHexDigits {c : Char} (h : c ∈ upperHexDigits) :
    isFormPlain c = true := by
  have hall : upperHexDigits.all isFormPlain = true := by decide
  exact List.all_eq_true.mp hall c h

theorem mem_formEncode {cs : List Char} {c : Char} (h : c ∈ formEncode cs) : IsFormChar c := by
  obtain ⟨d, -, hc⟩ := List.mem_flatMap.mp h
  split at hc
  next => exact Or.inr (Or.inl (List.mem_singleton.mp hc))
  next =>
    rcases mem_percentChar hc with ⟨-, -, hplain⟩ | hpercent | hdigit
    · exact Or.inl (by simpa using hplain)
    · exact Or.inr (Or.inr hpercent)
    · exact Or.inl (isFormPlain_of_mem_upperHexDigits hdigit)

theorem not_mem_formEncode {c : Char} (h : ¬IsFormChar c) (cs : List Char) : c ∉ formEncode cs :=
  mt mem_formEncode h

theorem not_isFormChar_of_mem {c : Char} (h : c ∈ ['&', '=', '?', '#']) : ¬IsFormChar c := by
  simp only [List.mem_cons, List.not_mem_nil, or_false] at h
  rcases h with rfl | rfl | rfl | rfl <;> rintro (h | h | h) <;> exact absurd h (by decide)

/-- A plus sign is put back to a space before anything else is read. -/
def spaced (c : Char) : Char :=
  if c = '+' then ' ' else c

theorem map_spaced_percentChar (c : Char) :
    (percentChar (fun c => !isFormPlain c) c).map spaced =
      percentChar (fun c => !isFormPlain c) c := by
  have hkept : ∀ d ∈ percentChar (fun c => !isFormPlain c) c, spaced d = d := by
    intro d hd
    refine if_neg ?_
    rintro rfl
    rcases mem_percentChar hd with ⟨-, -, hplain⟩ | hpercent | hdigit
    · exact absurd hplain (by decide)
    · exact absurd hpercent (by decide)
    · exact absurd hdigit (by decide)
  rw [List.map_congr_left hkept, List.map_id']

theorem percentDecode_spaced_formEncode (cs : List Char) :
    percentDecode ((formEncode cs).map spaced) = cs.flatMap String.utf8EncodeChar := by
  induction cs with
  | nil => exact percentDecode_nil
  | cons c cs ih =>
    have hcons : formEncode (c :: cs) =
        (if c = ' ' then ['+'] else percentChar (fun c => !isFormPlain c) c) ++ formEncode cs := rfl
    rw [hcons, List.map_append, List.flatMap_cons]
    split
    next hspace =>
      have hplus : ['+'].map spaced ++ (formEncode cs).map spaced =
          ' ' :: (formEncode cs).map spaced := rfl
      rw [hplus, percentDecode_cons_of_ne (by decide), ih, hspace]
    next => rw [map_spaced_percentChar, percentDecode_char (by decide), ih]

/-- The text that an encoded name or value stands for. -/
def formText (cs : List Char) : String :=
  Text.decodeLossy (formDecode cs)

theorem formText_formEncode (s : String) : formText (formEncode s.toList) = s := by
  have hdecode : formDecode (formEncode s.toList) =
      percentDecode ((formEncode s.toList).map spaced) := rfl
  rw [formText, hdecode, percentDecode_spaced_formEncode, Text.decodeLossy_encodeChars,
    String.ofList_toList]

/-! ## Pairs -/

/-- The pair that a piece of a query stands for. Without `=` it is all name. -/
def readPair (piece : List Char) : String × String :=
  (formText (piece.takeWhile (· != '=')), formText ((piece.dropWhile (· != '=')).drop 1))

/-- The pairs that a query stands for. A piece without characters stands for none. -/
def readPairs (query : List Char) : List (String × String) :=
  ((Text.splitOn '&' query).filter fun piece => !piece.isEmpty).map readPair

/-- The pairs of a URL. -/
def Url.pairs (u : Url) : List (String × String) :=
  match u.query with
  | some q => readPairs q.toList
  | none => []

theorem readPair_formPair (name value : String) :
    readPair (formPair name value) = (name, value) := by
  have hname : ∀ c ∈ formEncode name.toList, (c != '=') = true := by
    intro c hc
    refine bne_iff_ne.mpr ?_
    rintro rfl
    exact not_mem_formEncode (not_isFormChar_of_mem (by decide)) name.toList hc
  have htake : (formPair name value).takeWhile (· != '=') = formEncode name.toList := by
    rw [formPair, List.takeWhile_append_of_pos hname, List.takeWhile_cons_of_neg (by decide),
      List.append_nil]
  have hdrop : (formPair name value).dropWhile (· != '=') = '=' :: formEncode value.toList := by
    rw [formPair, List.dropWhile_append_of_pos hname, List.dropWhile_cons_of_neg (by decide)]
  rw [readPair, htake, hdrop, List.drop_one, List.tail_cons, formText_formEncode,
    formText_formEncode]

theorem mem_formPair {name value : String} {c : Char} (h : c ∈ formPair name value) :
    IsFormChar c ∨ c = '=' := by
  rcases List.mem_append.mp h with h | h
  · exact Or.inl (mem_formEncode h)
  · rcases List.mem_cons.mp h with rfl | h
    · exact Or.inr rfl
    · exact Or.inl (mem_formEncode h)

theorem readPairs_formPair (name value : String) :
    readPairs (formPair name value) = [(name, value)] := by
  have hamp : '&' ∉ formPair name value := by
    intro h
    rcases mem_formPair h with h | h
    · exact not_isFormChar_of_mem (by decide) h
    · exact absurd h (by decide)
  have hne : (formPair name value).isEmpty = false := by
    simp [formPair]
  rw [readPairs, Text.splitOn_of_not_mem hamp, List.filter_cons_of_pos (by simp [hne]),
    List.filter_nil, List.map_singleton, readPair_formPair]

theorem readPairs_append_cons (a b : List Char) :
    readPairs (a ++ '&' :: b) = readPairs a ++ readPairs b := by
  rw [readPairs, Text.splitOn_append_cons, List.filter_append, List.map_append]
  rfl

/-- A pair that is added is read behind those that are there. -/
theorem pairs_appendQuery (u : Url) (name value : String) :
    (u.appendQuery name value).pairs = u.pairs ++ [(name, value)] := by
  have hfirst : readPairs (String.ofList (formPair name value)).toList = [(name, value)] := by
    rw [String.toList_ofList, readPairs_formPair]
  have happend : (u.appendQuery name value).pairs =
      readPairs (appendPair u.query name value).toList := rfl
  rw [happend, Url.pairs]
  cases u.query with
  | none => exact hfirst
  | some q =>
    rw [appendPair]
    split
    next hempty =>
      obtain rfl := String.isEmpty_iff.mp hempty
      exact hfirst
    next =>
      have hchars : (q ++ "&" ++ String.ofList (formPair name value)).toList =
          q.toList ++ '&' :: (String.ofList (formPair name value)).toList := by
        simp [String.toList_append]
      rw [hchars, readPairs_append_cons, hfirst]

/-- What may stand in a query that was made of pairs. -/
def IsQueryChar (c : Char) : Prop :=
  IsFormChar c ∨ c = '=' ∨ c = '&'

theorem isQueryChar_appendPair {query : Option String}
    (h : ∀ q ∈ query, ∀ c ∈ q.toList, IsQueryChar c) (name value : String) :
    ∀ c ∈ (appendPair query name value).toList, IsQueryChar c := by
  have hpair : ∀ c ∈ (String.ofList (formPair name value)).toList, IsQueryChar c := by
    intro c hc
    rw [String.toList_ofList] at hc
    exact (mem_formPair hc).imp_right Or.inl
  cases query with
  | none => exact hpair
  | some q =>
    rw [appendPair]
    split
    next => exact hpair
    next =>
      intro c hc
      rw [String.toList_append, String.toList_append] at hc
      rcases List.mem_append.mp hc with hc | hc
      · rcases List.mem_append.mp hc with hc | hc
        · exact h q rfl c hc
        · exact Or.inr (Or.inr (List.mem_singleton.mp hc))
      · exact hpair c hc

end PlatformLink.Web
