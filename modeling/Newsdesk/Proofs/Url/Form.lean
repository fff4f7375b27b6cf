import Newsdesk.Proofs.Text.Names
import Newsdesk.Url.Query

/-!
# Form encoding is read back

A text in form encoding decodes to itself, whatever characters it has, and contains none of the
marks that keep names, values and pairs apart. So the names and values that are appended to the
query of a URL are read back from it behind those that were there (`Url.pairs_appendPairs`).

A plus sign is read as a blank before the escapes are decoded. A plus sign of the text itself is
written as an escape and so is not taken for one.
-/

namespace Newsdesk.Url

open Text

/-! ## Escapes -/

theorem hexDigitValue?_upperHexDigit :
    ∀ n < 16, hexDigitValue? (upperHexDigit n) = some n := by decide

theorem isFormSafe_upperHexDigit : ∀ n < 16, isFormSafe (upperHexDigit n) = true := by decide

theorem percentDecode_cons {c : Char} (h : c ≠ '%') (rest : List Char) :
    percentDecode (c :: rest) = String.utf8EncodeChar c ++ percentDecode rest := by
  rw [percentDecode]
  intro a b rest' hc
  exact absurd hc h

theorem percentDecode_percentByte (b : UInt8) (rest : List Char) :
    percentDecode (percentByte b ++ rest) = b :: percentDecode rest := by
  have hb : b.toNat < 256 := b.toNat_lt
  have hhigh := hexDigitValue?_upperHexDigit (b.toNat / 16) (by omega)
  have hlow := hexDigitValue?_upperHexDigit (b.toNat % 16) (by omega)
  have hvalue : b.toNat / 16 * 16 + b.toNat % 16 = b.toNat := by omega
  simp only [percentByte, List.cons_append, List.nil_append, percentDecode, hhigh, hlow, hvalue,
    UInt8.ofNat_toNat]

theorem percentDecode_percentBytes (bytes : List UInt8) (rest : List Char) :
    percentDecode (bytes.flatMap percentByte ++ rest) = bytes ++ percentDecode rest := by
  induction bytes with
  | nil => rfl
  | cons b bytes ih =>
    rw [List.flatMap_cons, List.append_assoc, percentDecode_percentByte, ih, List.cons_append]

/-! ## Characters -/

/-- A character of an escape is the percent sign or a digit. -/
theorem mem_percentChar {c d : Char} (h : d ∈ percentChar c) :
    d = '%' ∨ ∃ n < 16, d = upperHexDigit n := by
  obtain ⟨b, -, hb⟩ := List.mem_flatMap.1 h
  have hlt : b.toNat < 256 := b.toNat_lt
  simp only [percentByte, List.mem_cons, List.not_mem_nil, or_false] at hb
  rcases hb with rfl | rfl | rfl
  · exact .inl rfl
  · exact .inr ⟨_, by omega, rfl⟩
  · exact .inr ⟨_, by omega, rfl⟩

/-- A character of a form-encoded text stands for itself, for a blank or at the start of an
escape. -/
theorem mem_formEncode {cs : List Char} {d : Char} (h : d ∈ formEncode cs) :
    isFormSafe d = true ∨ d = '+' ∨ d = '%' := by
  obtain ⟨c, -, hd⟩ := List.mem_flatMap.1 h
  unfold formChar at hd
  split at hd
  · exact .inr (.inl (List.mem_singleton.1 hd))
  · split at hd
    · rename_i hsafe
      exact .inl (List.mem_singleton.1 hd ▸ hsafe)
    · obtain rfl | ⟨n, hn, rfl⟩ := mem_percentChar hd
      · exact .inr (.inr rfl)
      · exact .inl (isFormSafe_upperHexDigit n hn)

theorem not_mem_formEncode {cs : List Char} {mark : Char} (hsafe : isFormSafe mark = false)
    (hplus : mark ≠ '+') (hpercent : mark ≠ '%') : mark ∉ formEncode cs := by
  intro h
  rcases mem_formEncode h with h | h | h
  · rw [hsafe] at h
    cases h
  · exact hplus h
  · exact hpercent h

/-- How a character is read before the escapes are decoded. -/
def readPlus (c : Char) : Char := if c = '+' then ' ' else c

theorem map_readPlus_of_not_mem {cs : List Char} (h : '+' ∉ cs) : cs.map readPlus = cs := by
  have hsame : ∀ c ∈ cs, readPlus c = id c := fun c hc =>
    if_neg fun he : c = '+' => h (he ▸ hc)
  rw [List.map_congr_left hsame, List.map_id]

theorem not_mem_percentChar (c : Char) : '+' ∉ percentChar c := by
  intro h
  obtain h | ⟨n, hn, h⟩ := mem_percentChar h
  · revert h
    decide
  · have hsafe := isFormSafe_upperHexDigit n hn
    rw [← h] at hsafe
    revert hsafe
    decide

theorem percentDecode_formChar (c : Char) (rest : List Char) :
    percentDecode ((formChar c).map readPlus ++ rest) =
      String.utf8EncodeChar c ++ percentDecode rest := by
  unfold formChar
  split
  · rename_i hblank
    subst hblank
    exact percentDecode_cons (by decide) rest
  · split
    · rename_i hsafe
      have hplus : c ≠ '+' := fun he => by subst he; revert hsafe; decide
      have hpercent : c ≠ '%' := fun he => by subst he; revert hsafe; decide
      rw [List.map_singleton, readPlus, if_neg hplus]
      exact percentDecode_cons hpercent rest
    · rw [map_readPlus_of_not_mem (not_mem_percentChar c)]
      exact percentDecode_percentBytes _ rest

theorem percentDecode_formEncode (cs : List Char) :
    percentDecode ((formEncode cs).map readPlus) = cs.flatMap String.utf8EncodeChar := by
  induction cs with
  | nil => rfl
  | cons c rest ih =>
    have hcons : formEncode (c :: rest) = formChar c ++ formEncode rest := List.flatMap_cons
    rw [hcons, List.map_append, percentDecode_formChar, ih, List.flatMap_cons]

/-! ## Texts -/

theorem ofUtf8?_flatMap (cs : List Char) :
    Domain.ofUtf8? (cs.flatMap String.utf8EncodeChar) = some cs := by
  have hbytes : ByteArray.mk (cs.flatMap String.utf8EncodeChar).toArray =
      (String.ofList cs).toByteArray := by
    rw [String.toByteArray_ofList, List.utf8Encode]
    exact ByteArray.ext List.data_toByteArray.symm
  have hvalid := (String.ofList cs).isValidUTF8
  have hstring : String.fromUTF8 (String.ofList cs).toByteArray hvalid = String.ofList cs := rfl
  unfold Domain.ofUtf8? String.fromUTF8?
  rw [hbytes, dif_pos hvalid, Option.map_some, hstring, String.toList_ofList]

/-- A text in form encoding is read back. -/
theorem formDecode_formEncode (s : String) : formDecode (formEncode s.toList) = some s := by
  change (Domain.ofUtf8? (percentDecode ((formEncode s.toList).map readPlus))).map String.ofList = _
  rw [percentDecode_formEncode, ofUtf8?_flatMap, Option.map_some, String.ofList_toList]

/-! ## Names and values -/

theorem cutAt_append {mark : Char} {before : List Char} (h : mark ∉ before) (after : List Char) :
    cutAt mark (before ++ mark :: after) = (before, some after) := by
  induction before with
  | nil => simp [cutAt]
  | cons c rest ih =>
    obtain ⟨hc, hrest⟩ := not_or.1 (fun hm => h (List.mem_cons.2 hm))
    rw [List.cons_append, cutAt, if_neg (Ne.symm hc), ih hrest]

theorem ampersand_not_mem_formPair (name value : String) : '&' ∉ formPair name value := by
  have hencoded (cs : List Char) : '&' ∉ formEncode cs :=
    not_mem_formEncode (by decide) (by decide) (by decide)
  simp only [formPair, List.mem_append, List.mem_cons, not_or]
  exact ⟨hencoded _, by decide, hencoded _⟩

theorem encodePairs_singleton (p : String × String) : encodePairs [p] = formPair p.1 p.2 := by
  simp [encodePairs]

theorem encodePairs_cons_cons (p q : String × String) (rest : List (String × String)) :
    encodePairs (p :: q :: rest) = formPair p.1 p.2 ++ '&' :: encodePairs (q :: rest) := by
  simp [encodePairs]

/-- The names and values of a query, all of them read by `read`. -/
def readPairs {β : Type} (read : List Char → β) (query : List Char) : List (β × β) :=
  ((splitAt '&' query).filter (· ≠ [])).map fun piece =>
    match cutAt '=' piece with
    | (name, value) => (read name, read (value.getD []))

section

variable {β : Type} (read : List Char → β)

theorem readPairs_append (before after : List Char) :
    readPairs read (before ++ '&' :: after) = readPairs read before ++ readPairs read after := by
  simp only [readPairs, splitAt_eq_splitOn, List.splitOn_append_cons_self, List.filter_append,
    List.map_append]

theorem readPairs_formPair (name value : String) : readPairs read (formPair name value) =
    [(read (formEncode name.toList), read (formEncode value.toList))] := by
  have hne : formPair name value ≠ [] := by simp [formPair]
  have hcut : cutAt '=' (formPair name value) =
      (formEncode name.toList, some (formEncode value.toList)) :=
    cutAt_append (not_mem_formEncode (by decide) (by decide) (by decide)) _
  have hpieces : splitAt '&' (formPair name value) = [formPair name value] := by
    rw [splitAt_eq_splitOn, List.splitOn_eq_singleton (ampersand_not_mem_formPair name value)]
  simp [readPairs, hpieces, hne, hcut]

theorem readPairs_encodePairs (pairs : List (String × String)) :
    readPairs read (encodePairs pairs) =
      pairs.map fun p => (read (formEncode p.1.toList), read (formEncode p.2.toList)) := by
  induction pairs with
  | nil => rfl
  | cons p rest ih =>
    cases rest with
    | nil =>
      rw [encodePairs_singleton, readPairs_formPair]
      rfl
    | cons q rest =>
      rw [encodePairs_cons_cons, readPairs_append, readPairs_formPair, ih]
      rfl

/-- What is appended to a query is read behind what was there. -/
theorem readPairs_appendedQuery (query : Option String) (added : List (String × String)) :
    readPairs read (appendedQuery query added) = readPairs read (query.getD "").toList ++
      added.map fun p => (read (formEncode p.1.toList), read (formEncode p.2.toList)) := by
  have hadded := readPairs_encodePairs read added
  unfold appendedQuery
  cases query with
  | none => exact hadded
  | some q =>
    simp only [Option.getD_some]
    split
    · rename_i hempty
      rw [hempty]
      exact hadded
    · rw [readPairs_append, hadded]

end

/-- The names and values of the query of a URL. -/
def pairs (url : Url) : List (Option String × Option String) :=
  queryPairs (url.query.getD "").toList

/-- What is appended to the query of a URL is read behind what was there. -/
theorem pairs_appendPairs (url : Url) (added : List (String × String)) :
    (url.appendPairs added).pairs = url.pairs ++ added.map fun p => (some p.1, some p.2) := by
  have hread : queryPairs = readPairs formDecode := rfl
  have hquery := readPairs_appendedQuery formDecode url.query added
  simp only [formDecode_formEncode] at hquery
  simpa only [pairs, appendPairs, hread, Option.getD_some, String.toList_ofList] using hquery

end Newsdesk.Url
