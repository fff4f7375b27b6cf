import Mathlib.Data.List.TakeWhile
import Newsdesk.Calendar.Date

/-!
# What is read as a date

The reader takes a text for a date exactly if it is a spelling of one (`ofList?_eq_some_iff`): three
numbers with hyphens between them, with blanks in front of each and perhaps a sign on the year. Most
spellings are not in the format `YYYY-MM-DD`. Those that are have ten characters, start with a digit
and contain no blank (`inFormat_iff`).
-/

namespace Newsdesk.Date

open Text

/-! ## Numbers -/

/-- Digits that are read as one number, at most as many as the width allows. -/
structure IsNumeral (width : Option Nat) (ds : List Char) : Prop where
  nonempty : ds ≠ []
  digits : ∀ c ∈ ds, c.isDigit = true
  fits : ∀ w ∈ width, ds.length ≤ w

theorem isBlank_of_isDigit {c : Char} (h : c.isDigit = true) : isBlank c = false := by
  simp only [Char.isDigit, Bool.and_eq_true, decide_eq_true_eq, ge_iff_le, UInt32.le_iff_toNat_le]
    at h
  have hlow : 48 ≤ c.toNat := h.1
  have hhigh : c.toNat ≤ 57 := h.2
  simp only [isBlank, Bool.or_eq_false_iff, Bool.and_eq_false_iff, decide_eq_false_iff_not,
    beq_eq_false_iff_ne]
  omega

section

variable {width : Option Nat} {cs ds rest : List Char} {n : Nat}

/-- What is read as a number is in front of the rest. -/
theorem eq_append_of_readDigits (h : readDigits width cs = some (n, rest)) :
    ∃ ds, IsNumeral width ds ∧ cs = ds ++ rest ∧ n = numberOf ds := by
  unfold readDigits at h
  cases width with
  | none =>
    dsimp only at h
    split at h
    · cases h
    · rename_i hne
      cases h
      refine ⟨cs.takeWhile Char.isDigit, ⟨hne, fun c => List.mem_takeWhile_imp, nofun⟩, ?_, rfl⟩
      exact (List.prefix_iff_eq_append.1 (List.takeWhile_prefix _)).symm
  | some w =>
    dsimp only at h
    split at h
    · cases h
    · rename_i hne
      cases h
      have hprefix : (cs.take w).takeWhile Char.isDigit <+: cs :=
        (List.takeWhile_prefix _).trans (List.take_prefix w cs)
      refine ⟨(cs.take w).takeWhile Char.isDigit,
        ⟨hne, fun c => List.mem_takeWhile_imp, fun v hv => ?_⟩, ?_, rfl⟩
      · cases hv
        exact (List.takeWhile_prefix _).length_le.trans (List.length_take_le w cs)
      · exact (List.prefix_iff_eq_append.1 hprefix).symm

/-- A number is read up to the first character that is no digit. -/
theorem readDigits_append (h : IsNumeral width ds) (hrest : ∀ c ∈ rest.head?, c.isDigit = false) :
    readDigits width (ds ++ rest) = some (numberOf ds, rest) := by
  have hstop : rest.takeWhile Char.isDigit = [] := by
    cases rest with
    | nil => rfl
    | cons c rest => simp [hrest c rfl]
  have htake : (ds ++ rest).takeWhile Char.isDigit = ds := by
    rw [List.takeWhile_append_of_pos h.digits, hstop, List.append_nil]
  unfold readDigits
  cases width with
  | none => simp [htake, h.nonempty]
  | some w =>
    have hfits : ds.length ≤ w := h.fits w rfl
    have hcut : ((ds ++ rest).take w).takeWhile Char.isDigit = ds := by
      rw [List.take_append, List.take_of_length_le hfits, List.takeWhile_append_of_pos h.digits]
      have hnone : (rest.take (w - ds.length)).takeWhile Char.isDigit = [] := by
        cases rest with
        | nil => simp
        | cons c rest => cases w - ds.length <;> simp [hrest c rfl]
      rw [hnone, List.append_nil]
    simp [hcut, h.nonempty]

/-- Blanks in front of a number are dropped. -/
theorem dropWhile_isBlank_append {gap : List Char} (hgap : ∀ c ∈ gap, isBlank c = true)
    (h : IsNumeral width ds) (rest : List Char) :
    (gap ++ (ds ++ rest)).dropWhile isBlank = ds ++ rest := by
  rw [List.dropWhile_append_of_pos hgap]
  obtain ⟨d, ds', rfl⟩ := List.exists_cons_of_ne_nil h.nonempty
  simp [isBlank_of_isDigit (h.digits d List.mem_cons_self)]

theorem readPart_eq_some (h : readPart cs = some (n, rest)) : ∃ gap ds,
    (∀ c ∈ gap, isBlank c = true) ∧ IsNumeral (some 2) ds ∧ cs = '-' :: (gap ++ (ds ++ rest)) ∧
      n = numberOf ds := by
  unfold readPart at h
  split at h
  · rename_i after
    obtain ⟨ds, hds, hafter, rfl⟩ := eq_append_of_readDigits h
    refine ⟨after.takeWhile isBlank, ds, fun c => List.mem_takeWhile_imp, hds, ?_, rfl⟩
    rw [← hafter, List.takeWhile_append_dropWhile]
  · cases h

theorem readPart_append {gap : List Char} (hgap : ∀ c ∈ gap, isBlank c = true)
    (h : IsNumeral (some 2) ds) (hrest : ∀ c ∈ rest.head?, c.isDigit = false) :
    readPart ('-' :: (gap ++ (ds ++ rest))) = some (numberOf ds, rest) := by
  rw [readPart, dropWhile_isBlank_append hgap h, readDigits_append h hrest]

end

/-! ## Spellings -/

/-- A date as it is written: its three numbers, the blanks in front of each, and the sign of the
year. -/
structure Spelling where
  beforeYear : List Char
  sign : List Char
  year : List Char
  beforeMonth : List Char
  month : List Char
  beforeDay : List Char
  day : List Char

namespace Spelling

/-- The text of a spelling. -/
def toList (s : Spelling) : List Char :=
  s.beforeYear ++ (s.sign ++ (s.year ++ '-' :: (s.beforeMonth ++ (s.month ++
    '-' :: (s.beforeDay ++ s.day)))))

/-- The year of a spelling. -/
def yearNumber (s : Spelling) : Int :=
  if s.sign = ['-'] then -(numberOf s.year : Int) else numberOf s.year

/-- The day that a spelling names. -/
def date (s : Spelling) : Date := ⟨s.yearNumber, numberOf s.month, numberOf s.day⟩

/-- What the reader puts up with. -/
structure Lenient (s : Spelling) : Prop where
  beforeYear : ∀ c ∈ s.beforeYear, isBlank c = true
  sign : s.sign = [] ∨ s.sign = ['-'] ∨ s.sign = ['+']
  year : IsNumeral (if s.sign = [] then some 4 else none) s.year
  beforeMonth : ∀ c ∈ s.beforeMonth, isBlank c = true
  month : IsNumeral (some 2) s.month
  beforeDay : ∀ c ∈ s.beforeDay, isBlank c = true
  day : IsNumeral (some 2) s.day
  exists_date : Exists s.yearNumber (numberOf s.month) (numberOf s.day)

end Spelling

theorem readYear_eq_some {cs rest : List Char} {y : Int} (h : readYear cs = some (y, rest)) :
    ∃ gap sign ds, (∀ c ∈ gap, isBlank c = true) ∧ (sign = [] ∨ sign = ['-'] ∨ sign = ['+']) ∧
      IsNumeral (if sign = [] then some 4 else none) ds ∧ cs = gap ++ (sign ++ (ds ++ rest)) ∧
      y = if sign = ['-'] then -(numberOf ds : Int) else numberOf ds := by
  have hgap : ∀ c ∈ cs.takeWhile isBlank, isBlank c = true := fun c => List.mem_takeWhile_imp
  have hcs {after : List Char} (hafter : cs.dropWhile isBlank = after) :
      cs = cs.takeWhile isBlank ++ after := by
    rw [← hafter, List.takeWhile_append_dropWhile]
  unfold readYear at h
  split at h
  · rename_i after hafter
    obtain ⟨⟨n, rest'⟩, hread, ⟨⟩⟩ := Option.map_eq_some_iff.1 h
    obtain ⟨ds, hds, rfl, rfl⟩ := eq_append_of_readDigits hread
    exact ⟨_, ['-'], ds, hgap, .inr (.inl rfl), hds, hcs hafter, rfl⟩
  · rename_i after hafter
    obtain ⟨⟨n, rest'⟩, hread, ⟨⟩⟩ := Option.map_eq_some_iff.1 h
    obtain ⟨ds, hds, rfl, rfl⟩ := eq_append_of_readDigits hread
    exact ⟨_, ['+'], ds, hgap, .inr (.inr rfl), hds, hcs hafter, rfl⟩
  · obtain ⟨⟨n, rest'⟩, hread, ⟨⟩⟩ := Option.map_eq_some_iff.1 h
    obtain ⟨ds, hds, hafter, rfl⟩ := eq_append_of_readDigits hread
    exact ⟨_, [], ds, hgap, .inl rfl, hds, hcs hafter, rfl⟩

theorem readYear_append {gap sign ds rest : List Char} (hgap : ∀ c ∈ gap, isBlank c = true)
    (hsign : sign = [] ∨ sign = ['-'] ∨ sign = ['+'])
    (hds : IsNumeral (if sign = [] then some 4 else none) ds)
    (hrest : ∀ c ∈ rest.head?, c.isDigit = false) :
    readYear (gap ++ (sign ++ (ds ++ rest))) =
      some (if sign = ['-'] then -(numberOf ds : Int) else numberOf ds, rest) := by
  unfold readYear
  rcases hsign with rfl | rfl | rfl
  · rw [List.nil_append, dropWhile_isBlank_append hgap hds]
    have hread := readDigits_append hds hrest
    obtain ⟨d, ds', rfl⟩ := List.exists_cons_of_ne_nil hds.nonempty
    have hdigit := hds.digits d List.mem_cons_self
    split
    · rename_i heq
      obtain rfl : d = '-' := (List.cons.inj heq).1
      cases hdigit
    · rename_i heq
      obtain rfl : d = '+' := (List.cons.inj heq).1
      cases hdigit
    · rw [show readDigits (some 4) (d :: ds' ++ rest) = _ from hread]
      rfl
  · rw [List.dropWhile_append_of_pos hgap]
    have hread : readDigits none (ds ++ rest) = _ := readDigits_append hds hrest
    simp [isBlank, hread]
  · rw [List.dropWhile_append_of_pos hgap]
    have hread : readDigits none (ds ++ rest) = _ := readDigits_append hds hrest
    simp [isBlank, hread]

/-- A text is read as a date if it is a spelling of it, and only then. -/
theorem ofList?_eq_some_iff {cs : List Char} {d : Date} :
    ofList? cs = some d ↔ ∃ s : Spelling, s.Lenient ∧ s.toList = cs ∧ s.date = d := by
  constructor
  · intro h
    simp only [ofList?, Option.bind_eq_bind, Option.bind_eq_some_iff] at h
    obtain ⟨⟨y, rest⟩, hyear, ⟨m, rest'⟩, hmonth, ⟨n, rest''⟩, hday, h⟩ := h
    split at h
    · rename_i hend
      obtain ⟨rfl, hexists⟩ := hend
      cases h
      obtain ⟨gap, sign, ds, hgap, hsign, hds, rfl, rfl⟩ := readYear_eq_some hyear
      obtain ⟨gap', ms, hgap', hms, rfl, rfl⟩ := readPart_eq_some hmonth
      obtain ⟨gap'', ns, hgap'', hns, rfl, rfl⟩ := readPart_eq_some hday
      refine ⟨⟨gap, sign, ds, gap', ms, gap'', ns⟩,
        ⟨hgap, hsign, hds, hgap', hms, hgap'', hns, hexists⟩, ?_, rfl⟩
      simp [Spelling.toList]
    · cases h
  · rintro ⟨s, hs, rfl, rfl⟩
    have hmark (cs : List Char) : ∀ c ∈ ('-' :: cs).head?, c.isDigit = false := by simp
    have hend : ∀ c ∈ ([] : List Char).head?, c.isDigit = false := by simp
    have hyear := readYear_append hs.beforeYear hs.sign hs.year
      (hmark (s.beforeMonth ++ (s.month ++ '-' :: (s.beforeDay ++ s.day))))
    have hmonth := readPart_append hs.beforeMonth hs.month (hmark (s.beforeDay ++ s.day))
    have hday := readPart_append hs.beforeDay hs.day hend
    rw [List.append_nil] at hday
    have hexists := hs.exists_date
    unfold Spelling.yearNumber at hexists
    simp [ofList?, Spelling.toList, hyear, hmonth, hday, hexists, Spelling.date,
      Spelling.yearNumber]

/-! ## The format -/

/-- `YYYY-MM-DD`: four digits, two and two, with hyphens between them, that name a day. -/
def InFormat (cs : List Char) (d : Date) : Prop :=
  ∃ year month day : List Char, cs = year ++ '-' :: (month ++ '-' :: day) ∧
    (year.length = 4 ∧ month.length = 2 ∧ day.length = 2) ∧
    (∀ c ∈ year ++ (month ++ day), c.isDigit = true) ∧
    d = ⟨numberOf year, numberOf month, numberOf day⟩ ∧ Exists d.year d.month d.day

/-- A text in the format is read. -/
theorem InFormat.ofList?_eq {cs : List Char} {d : Date} (h : InFormat cs d) :
    ofList? cs = some d := by
  obtain ⟨year, month, day, rfl, ⟨hy, hm, hd⟩, hdigits, rfl, hexists⟩ := h
  have numeral {w : Nat} {ds : List Char} (hpos : 0 < w) (hlen : ds.length = w)
      (hsub : ds ⊆ year ++ (month ++ day)) : IsNumeral (some w) ds := by
    refine ⟨List.length_pos_iff.1 (hlen ▸ hpos), fun c hc => hdigits c (hsub hc), fun v hv => ?_⟩
    cases hv
    exact hlen.le
  refine ofList?_eq_some_iff.2 ⟨⟨[], [], year, [], month, [], day⟩, ?_, rfl, rfl⟩
  exact {
    beforeYear := nofun
    sign := .inl rfl
    year := numeral (by decide) hy (by simp)
    beforeMonth := nofun
    month := numeral (by decide) hm (by simp)
    beforeDay := nofun
    day := numeral (by decide) hd (by simp)
    exists_date := hexists }

/-- Ten characters without a blank, of which the first is a digit. -/
def IsTight (cs : List Char) : Prop :=
  cs.length = 10 ∧ (∀ c ∈ cs.head?, c.isDigit = true) ∧ ∀ c ∈ cs, isBlank c = false

instance (cs : List Char) : Decidable (IsTight cs) :=
  decidable_of_iff (cs.length = 10 ∧ cs.head?.all Char.isDigit = true ∧
    cs.all (fun c => !isBlank c) = true) (by cases cs <;> simp [IsTight])

/-- Of the texts that are read, those are in the format that are tight. -/
theorem inFormat_iff {cs : List Char} {d : Date} (h : ofList? cs = some d) :
    InFormat cs d ↔ IsTight cs := by
  constructor
  · rintro ⟨year, month, day, rfl, ⟨hy, hm, hd⟩, hdigits, -, -⟩
    refine ⟨by simp [hy, hm, hd], fun c hc => ?_, fun c hc => ?_⟩
    · obtain ⟨y, ys, rfl⟩ := List.exists_cons_of_length_eq_add_one hy
      cases hc
      exact hdigits _ List.mem_cons_self
    · by_cases hmark : c = '-'
      · rw [hmark]
        rfl
      · refine isBlank_of_isDigit (hdigits c ?_)
        simpa [hmark] using hc
  · rintro ⟨hlength, hfirst, hblanks⟩
    obtain ⟨⟨gap, sign, year, gap', month, gap'', day⟩, hs, rfl, rfl⟩ := ofList?_eq_some_iff.1 h
    have empty {gap : List Char} (hgap : ∀ c ∈ gap, isBlank c = true)
        (hno : ∀ c ∈ gap, isBlank c = false) : gap = [] :=
      List.eq_nil_iff_forall_not_mem.2 fun c hc => by
        have hblank := hgap c hc
        rw [hno c hc] at hblank
        cases hblank
    obtain rfl : gap = [] :=
      empty hs.beforeYear fun c hc => hblanks c (by simp [Spelling.toList, hc])
    obtain rfl : gap' = [] :=
      empty hs.beforeMonth fun c hc => hblanks c (by simp [Spelling.toList, hc])
    obtain rfl : gap'' = [] :=
      empty hs.beforeDay fun c hc => hblanks c (by simp [Spelling.toList, hc])
    obtain rfl : sign = [] := by
      -- a sign would be the first character
      rcases hs.sign with hsign | hsign | hsign
      · exact hsign
      · cases hsign
        cases hfirst '-' rfl
      · cases hsign
        cases hfirst '+' rfl
    have hy : year.length ≤ 4 := hs.year.fits 4 rfl
    have hm : month.length ≤ 2 := hs.month.fits 2 rfl
    have hd : day.length ≤ 2 := hs.day.fits 2 rfl
    simp only [Spelling.toList, List.nil_append, List.length_append, List.length_cons] at hlength
    refine ⟨year, month, day, rfl, by omega, fun c hc => ?_, rfl, hs.exists_date⟩
    rcases List.mem_append.1 hc with hc | hc
    · exact hs.year.digits c hc
    · exact (List.mem_append.1 hc).elim (hs.month.digits c) (hs.day.digits c)

end Newsdesk.Date
