import Newsdesk.Proofs.Url.Form

/-!
# Paths that are read again

The segments of a path that has been read are in their final form (`IsSegment`): nothing in them is
left to be encoded, none of them is cut any further, and none stands for a folder. So a path that is
written and read again leads to the same segments (`pathAfterHost_segmentsText`), and the written
form tells paths apart (`segmentsText_injective`).

Encoding must not make a segment out of dots where there was none, since a dot may also be written
as an escape (`Dots`). It does not, as the dot is no character that is ever encoded.
-/

namespace Newsdesk.Url

open Text UrlPath

/-! ## Encoding twice -/

theorem percentEncode_cons (special : Char → Bool) (c : Char) (cs : List Char) :
    percentEncode special (c :: cs) =
      (if special c then percentChar c else [c]) ++ percentEncode special cs := List.flatMap_cons

theorem percentEncode_cons_of_not {special : Char → Bool} {c : Char} (h : special c = false)
    (cs : List Char) : percentEncode special (c :: cs) = c :: percentEncode special cs := by
  rw [percentEncode_cons, h]
  rfl

theorem percentEncode_eq_self {special : Char → Bool} {cs : List Char}
    (h : ∀ c ∈ cs, special c = false) : percentEncode special cs = cs := by
  induction cs with
  | nil => rfl
  | cons c rest ih =>
    obtain ⟨hc, hrest⟩ := List.forall_mem_cons.1 h
    rw [percentEncode_cons_of_not hc, ih hrest]

/-- A character of an encoded text was there before, or belongs to an escape. -/
theorem mem_percentEncode {special : Char → Bool} {cs : List Char} {d : Char}
    (h : d ∈ percentEncode special cs) :
    (d ∈ cs ∧ special d = false) ∨ d = '%' ∨ ∃ n < 16, d = upperHexDigit n := by
  obtain ⟨c, hc, hd⟩ := List.mem_flatMap.1 h
  split at hd
  · exact .inr (mem_percentChar hd)
  · rename_i hspecial
    obtain rfl := List.mem_singleton.1 hd
    exact .inl ⟨hc, Bool.eq_false_iff.2 hspecial⟩

theorem inPathSet_upperHexDigit : ∀ n < 16, inPathSet (upperHexDigit n) = false := by decide

theorem upperHexDigit_ne_slash :
    ∀ n < 16, '/' ≠ upperHexDigit n ∧ '\\' ≠ upperHexDigit n := by decide

/-- Nothing is left to be encoded in an encoded text. -/
theorem inPathSet_of_mem_percentEncode {cs : List Char} {d : Char}
    (h : d ∈ percentEncode inPathSet cs) : inPathSet d = false := by
  obtain ⟨-, hd⟩ | rfl | ⟨n, hn, rfl⟩ := mem_percentEncode h
  · exact hd
  · rfl
  · exact inPathSet_upperHexDigit n hn

/-! ## Dots -/

/-- A text in lower case that has nothing but dots, each of them as it is or as an escape. -/
inductive Dots : List Char → Prop
  | nil : Dots []
  | dot {rest : List Char} : Dots rest → Dots ('.' :: rest)
  | escape {rest : List Char} : Dots rest → Dots ('%' :: '2' :: 'e' :: rest)

theorem dots_of_isDot {s : List Char} (h : isDot s = true) : Dots (s.map Char.toLower) := by
  unfold isDot at h
  rcases Bool.or_eq_true_iff.1 h with h | h
  · obtain rfl := of_decide_eq_true h
    exact .dot .nil
  · rw [of_decide_eq_true h]
    exact .escape .nil

theorem dots_of_isDoubleDot {s : List Char} (h : isDoubleDot s = true) :
    Dots (s.map Char.toLower) := by
  unfold isDoubleDot at h
  split at h
  · rename_i hs
    rw [hs]
    exact .dot (.dot .nil)
  · rename_i hs
    rw [hs]
    exact .dot (.escape .nil)
  · rename_i hs
    rw [hs]
    exact .escape (.dot .nil)
  · rename_i hs
    rw [hs]
    exact .escape (.escape .nil)
  · cases h

/-- An escape has two digits, and those of a dot only if it is the escape of a dot. -/
theorem percentChar_eq (c : Char) : ∃ high < 16, ∃ low < 16, ∃ rest,
    percentChar c = '%' :: upperHexDigit high :: upperHexDigit low :: rest ∧
      (high * 16 + low = 46 → c = '.') := by
  obtain ⟨first, more, hbytes, hdot⟩ : ∃ first more, String.utf8EncodeChar c = first :: more ∧
      (first.toNat = 46 → c = '.') := by
    unfold String.utf8EncodeChar
    dsimp only
    split
    · rename_i hascii
      refine ⟨_, _, rfl, fun h => Char.ext (UInt32.toNat_inj.1 ?_)⟩
      rw [UInt8.toNat_ofNat'] at h
      exact (Nat.mod_eq_of_lt (by omega)).symm.trans h
    · -- the first byte of several is at least 0xC0
      split
      · exact ⟨_, _, rfl, fun h => by rw [UInt8.toNat_ofNat'] at h; omega⟩
      · split
        · exact ⟨_, _, rfl, fun h => by rw [UInt8.toNat_ofNat'] at h; omega⟩
        · exact ⟨_, _, rfl, fun h => by rw [UInt8.toNat_ofNat'] at h; omega⟩
  have hlt : first.toNat < 256 := first.toNat_lt
  refine ⟨first.toNat / 16, by omega, first.toNat % 16, by omega,
    more.flatMap percentByte, ?_, fun h => hdot (by omega)⟩
  unfold percentChar
  rw [hbytes]
  rfl

/-- The first character of an encoded text in lower case. -/
theorem map_toLower_percentEncode_eq_cons {s rest : List Char} {d : Char}
    (h : (percentEncode inPathSet s).map Char.toLower = d :: rest) : ∃ c s', s = c :: s' ∧
      ((inPathSet c = false ∧ rest = (percentEncode inPathSet s').map Char.toLower) ∨
        (d = '%' ∧ ∀ rest', rest ≠ '2' :: 'e' :: rest')) := by
  cases s with
  | nil => cases h
  | cons c s' =>
    refine ⟨c, s', rfl, ?_⟩
    rw [percentEncode_cons] at h
    cases hc : inPathSet c with
    | false =>
      rw [hc] at h
      exact .inl ⟨rfl, (List.cons.inj h).2.symm⟩
    | true =>
      have hhigh : ∀ n < 16, (upperHexDigit n).toLower = '2' → n = 2 := by decide
      have hlow : ∀ n < 16, (upperHexDigit n).toLower = 'e' → n = 14 := by decide
      obtain ⟨high, hhighlt, low, hlowlt, more, hchar, hdot⟩ := percentChar_eq c
      rw [hc, if_pos rfl, hchar] at h
      obtain ⟨hd, hrest⟩ := List.cons.inj h
      refine .inr ⟨hd.symm, fun rest' hdots => ?_⟩
      rw [hdots] at hrest
      obtain ⟨h2, hrest⟩ := List.cons.inj hrest
      obtain ⟨he, -⟩ := List.cons.inj hrest
      obtain rfl := hhigh high hhighlt h2
      obtain rfl := hlow low hlowlt he
      obtain rfl := hdot rfl
      exact absurd hc (by decide)

/-- A text whose encoded form is nothing but dots has not been changed by encoding it. -/
theorem percentEncode_of_dots {s : List Char}
    (h : Dots ((percentEncode inPathSet s).map Char.toLower)) : percentEncode inPathSet s = s := by
  generalize ht : (percentEncode inPathSet s).map Char.toLower = t at h
  induction h generalizing s with
  | nil =>
    cases s with
    | nil => rfl
    | cons c s =>
      refine absurd (List.map_eq_nil_iff.1 ht) ?_
      rw [percentEncode_cons, List.append_eq_nil_iff]
      rintro ⟨hempty, -⟩
      split at hempty
      · obtain ⟨_, -, _, -, _, hchar, -⟩ := percentChar_eq c
        rw [hchar] at hempty
        cases hempty
      · cases hempty
  | dot _ ih =>
    obtain ⟨c, s', rfl, ⟨hc, hrest⟩ | ⟨hmark, -⟩⟩ := map_toLower_percentEncode_eq_cons ht
    · rw [percentEncode_cons_of_not hc, ih hrest.symm]
    · exact absurd hmark (by decide)
  | escape _ ih =>
    obtain ⟨c, s', rfl, ⟨hc, hrest⟩ | ⟨-, hno⟩⟩ := map_toLower_percentEncode_eq_cons ht
    · obtain ⟨c₂, s₂, rfl, ⟨hc₂, hrest₂⟩ | ⟨hmark, -⟩⟩ :=
        map_toLower_percentEncode_eq_cons hrest.symm
      · obtain ⟨c₃, s₃, rfl, ⟨hc₃, hrest₃⟩ | ⟨hmark, -⟩⟩ :=
          map_toLower_percentEncode_eq_cons hrest₂.symm
        · rw [percentEncode_cons_of_not hc, percentEncode_cons_of_not hc₂,
            percentEncode_cons_of_not hc₃, ih hrest₃.symm]
        · exact absurd hmark (by decide)
      · exact absurd hmark (by decide)
    · exact absurd rfl (hno _)

theorem isDot_percentEncode {s : List Char} (h : isDot s = false) :
    isDot (percentEncode inPathSet s) = false := by
  refine Bool.eq_false_iff.2 fun hdot => ?_
  rw [percentEncode_of_dots (dots_of_isDot hdot), h] at hdot
  cases hdot

theorem isDoubleDot_percentEncode {s : List Char} (h : isDoubleDot s = false) :
    isDoubleDot (percentEncode inPathSet s) = false := by
  refine Bool.eq_false_iff.2 fun hdot => ?_
  rw [percentEncode_of_dots (dots_of_isDoubleDot hdot), h] at hdot
  cases hdot

/-! ## Segments -/

/-- A segment in its final form: nothing in it is to be encoded, it is one piece, and it stands for
no folder. -/
structure IsSegment (s : String) : Prop where
  encoded : ∀ c ∈ s.toList, inPathSet c = false
  noSlash : '/' ∉ s.toList
  noBackslash : '\\' ∉ s.toList
  noDot : isDot s.toList = false
  noDoubleDot : isDoubleDot s.toList = false

theorem isSegment_of_all {s : String}
    (hall : (s.toList.all fun c => !inPathSet c && c != '/' && c != '\\') = true)
    (hdot : isDot s.toList = false) (hdouble : isDoubleDot s.toList = false) : IsSegment s where
  encoded c hc := by
    have hchar := List.all_eq_true.1 hall c hc
    simp only [Bool.and_eq_true, Bool.not_eq_true'] at hchar
    exact hchar.1.1
  noSlash hmem := by simpa using List.all_eq_true.1 hall _ hmem
  noBackslash hmem := by simpa using List.all_eq_true.1 hall _ hmem
  noDot := hdot
  noDoubleDot := hdouble

theorem isSegment_empty : IsSegment "" := isSegment_of_all rfl rfl rfl

/-- A piece between two slashes. -/
def IsPiece (piece : List Char) : Prop := '/' ∉ piece ∧ '\\' ∉ piece

/-- The encoded form of a piece that stands for no folder. -/
theorem isSegment_percentEncode {piece : List Char} (h : IsPiece piece)
    (hdot : isDot piece = false) (hdouble : isDoubleDot piece = false) :
    IsSegment (String.ofList (percentEncode inPathSet piece)) := by
  have hkept {mark : Char} (hpiece : mark ∉ piece) (hpercent : mark ≠ '%')
      (hdigit : ∀ n < 16, mark ≠ upperHexDigit n) : mark ∉ percentEncode inPathSet piece := by
    intro hmark
    obtain ⟨hmem, -⟩ | hmark | ⟨n, hn, hmark⟩ := mem_percentEncode hmark
    · exact hpiece hmem
    · exact hpercent hmark
    · exact hdigit n hn hmark
  constructor <;> rw [String.toList_ofList]
  · exact fun c hc => inPathSet_of_mem_percentEncode hc
  · exact hkept h.1 (by decide) fun n hn => (upperHexDigit_ne_slash n hn).1
  · exact hkept h.2 (by decide) fun n hn => (upperHexDigit_ne_slash n hn).2
  · exact isDot_percentEncode hdot
  · exact isDoubleDot_percentEncode hdouble

/-! ## Walking along a path

Only the paths of URLs with a special scheme are looked at from here on: a file path may start with
a drive, and with any other scheme a backslash stands for itself. -/

theorem encodeSegment_special (before : List String) (piece : List Char) :
    encodeSegment .special before piece = String.ofList (percentEncode inPathSet piece) := by
  unfold encodeSegment
  split
  · exact if_neg fun h => by cases h.1
  · rfl

theorem mem_parent {before : List String} {s : String} (h : s ∈ parent before) : s ∈ before := by
  unfold parent at h
  split at h
  · split at h
    · exact h
    · exact List.dropLast_subset _ h
  · cases h

variable {before segs : List String}

/-- One piece of a path leads from segments in their final form to such segments. -/
theorem isSegment_step {piece : List Char} (hbefore : ∀ s ∈ before, IsSegment s)
    (h : IsPiece piece) : ∀ s ∈ (if isDoubleDot piece then parent before
      else if isDot piece then before
      else before ++ [encodeSegment .special before piece]), IsSegment s := by
  intro s hs
  split at hs
  · exact hbefore s (mem_parent hs)
  · rename_i hdouble
    split at hs
    · exact hbefore s hs
    · rename_i hdot
      rw [encodeSegment_special] at hs
      obtain hs | hs := List.mem_append.1 hs
      · exact hbefore s hs
      · obtain rfl := List.mem_singleton.1 hs
        exact isSegment_percentEncode h (Bool.eq_false_iff.2 hdot) (Bool.eq_false_iff.2 hdouble)

theorem isSegment_walk {ps : List (List Char)} (hbefore : ∀ s ∈ before, IsSegment s)
    (hps : ∀ p ∈ ps, IsPiece p) : ∀ s ∈ walk .special before ps, IsSegment s := by
  have hslash {folder : List String} (hfolder : ∀ s ∈ folder, IsSegment s) :
      ∀ s ∈ folder ++ [""], IsSegment s := by
    intro s hs
    obtain hs | hs := List.mem_append.1 hs
    · exact hfolder s hs
    · exact List.mem_singleton.1 hs ▸ isSegment_empty
  induction ps generalizing before with
  | nil => exact hbefore
  | cons piece rest ih =>
    obtain ⟨hpiece, hrest⟩ := List.forall_mem_cons.1 hps
    have hstep := isSegment_step hbefore hpiece
    cases rest with
    | nil =>
      unfold walk
      split
      · exact hslash fun s hs => hbefore s (mem_parent hs)
      · rename_i hdouble
        rw [if_neg hdouble] at hstep
        split
        · exact hslash hbefore
        · rename_i hdot
          rwa [if_neg hdot] at hstep
    | cons next rest =>
      unfold walk
      exact ih hstep hrest

/-- A path leads somewhere. -/
theorem walk_ne_nil {ps : List (List Char)} (hps : ps ≠ []) (kind : SchemeKind)
    (before : List String) : walk kind before ps ≠ [] := by
  induction ps generalizing before with
  | nil => exact absurd rfl hps
  | cons piece rest ih =>
    cases rest with
    | nil =>
      unfold walk
      split
      · simp
      · split <;> simp
    | cons next rest =>
      unfold walk
      exact ih (List.cons_ne_nil _ _) _

/-- Segments in their final form are walked along as they are. -/
theorem walk_segments (h : ∀ s ∈ segs, IsSegment s) (before : List String) :
    walk .special before (segs.map String.toList) = before ++ segs := by
  have hsame {s : String} (hs : IsSegment s) (before : List String) :
      encodeSegment .special before s.toList = s := by
    rw [encodeSegment_special, percentEncode_eq_self hs.encoded, String.ofList_toList]
  induction segs generalizing before with
  | nil => exact (List.append_nil before).symm
  | cons s rest ih =>
    obtain ⟨hs, hrest⟩ := List.forall_mem_cons.1 h
    cases rest with
    | nil => simp [walk, hs.noDot, hs.noDoubleDot, hsame hs]
    | cons next rest =>
      have hnext := ih hrest (before ++ [s])
      rw [List.append_assoc, List.singleton_append] at hnext
      simpa [walk, hs.noDot, hs.noDoubleDot, hsame hs] using hnext

/-! ## Written paths -/

theorem resolve_special (before : List String) (cs : List Char) :
    resolve .special before cs = walk .special before (pieces .special cs) := by
  unfold resolve trimFile
  exact if_neg nofun

theorem isPiece_of_mem_pieces {cs piece : List Char} (h : piece ∈ pieces .special cs) :
    IsPiece piece := by
  refine ⟨not_mem_of_mem_splitAt h, fun hback => ?_⟩
  -- backslashes have been turned into slashes before the text is cut
  obtain ⟨c, -, hc⟩ := List.mem_map.1 (subset_of_mem_splitAt h hback)
  split at hc
  · exact absurd hc (by decide)
  · rename_i hne
    exact hne hc

/-- The path behind a host is in its final form, whatever its text is. -/
theorem isSegment_pathAfterHost (cs : List Char) :
    ∀ s ∈ pathAfterHost .special cs, IsSegment s := by
  have hresolve (cs : List Char) : ∀ s ∈ resolve .special [] cs, IsSegment s := by
    rw [resolve_special]
    exact isSegment_walk nofun fun p hp => isPiece_of_mem_pieces hp
  unfold pathAfterHost
  split
  · rw [if_neg nofun]
    exact fun s hs => List.mem_singleton.1 hs ▸ isSegment_empty
  · split <;> exact hresolve _

theorem pathAfterHost_ne_nil (cs : List Char) : pathAfterHost .special cs ≠ [] := by
  have hresolve (cs : List Char) : resolve .special [] cs ≠ [] := by
    rw [resolve_special]
    exact walk_ne_nil (splitAt_ne_nil _ _) _ _
  unfold pathAfterHost
  split
  · exact nofun
  · split <;> exact hresolve _

theorem segmentsText_eq (hne : segs ≠ []) :
    segmentsText segs = '/' :: ['/'].intercalate (segs.map String.toList) := by
  induction segs with
  | nil => exact absurd rfl hne
  | cons s rest ih =>
    have hcons : segmentsText (s :: rest) = '/' :: s.toList ++ segmentsText rest :=
      List.flatMap_cons
    cases rest with
    | nil => simp [segmentsText]
    | cons next rest =>
      rw [hcons, ih (List.cons_ne_nil _ _)]
      simp [List.intercalate_cons_cons]

theorem mem_segmentsText {c : Char} (h : c ∈ segmentsText segs) :
    c = '/' ∨ ∃ s ∈ segs, c ∈ s.toList := by
  obtain ⟨s, hs, hc⟩ := List.mem_flatMap.1 h
  exact (List.mem_cons.1 hc).imp id fun hc => ⟨s, hs, hc⟩

/-- A path in its final form is cut into its segments. -/
theorem pieces_intercalate (hne : segs ≠ []) (h : ∀ s ∈ segs, IsSegment s) :
    pieces .special (['/'].intercalate (segs.map String.toList)) = segs.map String.toList := by
  have hback : '\\' ∉ ['/'].intercalate (segs.map String.toList) := by
    intro hmem
    have htext : '\\' ∈ segmentsText segs := by
      rw [segmentsText_eq hne]
      exact List.mem_cons_of_mem _ hmem
    obtain hmark | ⟨s, hs, hc⟩ := mem_segmentsText htext
    · exact absurd hmark (by decide)
    · exact (h s hs).noBackslash hc
  have hsame : ∀ c ∈ ['/'].intercalate (segs.map String.toList),
      (if c = '\\' then '/' else c) = id c := fun c hc =>
    if_neg fun hmark : c = '\\' => hback (hmark ▸ hc)
  have hnoSlash : ∀ l ∈ segs.map String.toList, '/' ∉ l := by
    intro l hl
    obtain ⟨s, hs, rfl⟩ := List.mem_map.1 hl
    exact (h s hs).noSlash
  have hspecial : SchemeKind.special.isSpecial = true := rfl
  unfold pieces
  rw [if_pos hspecial, List.map_congr_left hsame, List.map_id, splitAt_eq_splitOn,
    List.splitOn_intercalate '/' hnoSlash (fun hnil => hne (List.map_eq_nil_iff.1 hnil))]

/-- A written path is read as the segments that it was written from. -/
theorem pathAfterHost_segmentsText (hne : segs ≠ []) (h : ∀ s ∈ segs, IsSegment s) :
    pathAfterHost .special (segmentsText segs) = segs := by
  have hread : pathAfterHost .special ('/' :: ['/'].intercalate (segs.map String.toList)) =
      resolve .special [] (['/'].intercalate (segs.map String.toList)) := rfl
  rw [segmentsText_eq hne, hread, resolve_special, pieces_intercalate hne h, walk_segments h,
    List.nil_append]

/-- Paths in their final form are told apart by their text. -/
theorem segmentsText_injective {segs' : List String} (hne : segs ≠ []) (hne' : segs' ≠ [])
    (h : ∀ s ∈ segs, IsSegment s) (h' : ∀ s ∈ segs', IsSegment s)
    (heq : segmentsText segs = segmentsText segs') : segs = segs' := by
  rw [← pathAfterHost_segmentsText hne h, heq, pathAfterHost_segmentsText hne' h']

end Newsdesk.Url
