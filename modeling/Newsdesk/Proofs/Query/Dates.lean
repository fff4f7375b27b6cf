import Newsdesk.Admission.HotNewsRules
import Newsdesk.Proofs.Calendar.Reading
import Newsdesk.Proofs.Url.Form

/-!
# The dates that a query asks for

A valid query with dates hands them on as its author has spelled them, without the blanks around
them. They name two days in order, but the reader of dates is lenient: the aggregator is asked in
the format `YYYY-MM-DD` exactly if both texts are tight (`datesInFormat_iff`). A month of one digit
is valid and is asked for as it stands (`shortMonth_notInFormat`).
-/

namespace Newsdesk

open Text

/-- The last parameters of an address are two dates in the format `YYYY-MM-DD`, the first before the
second. -/
def DatesInFormat (url : Url) : Prop :=
  ∃ before start stop first last,
    url.pairs = before ++ [(some "startDate", some start), (some "endDate", some stop)] ∧
      Date.InFormat start.toList first ∧ Date.InFormat stop.toList last ∧ Date.Before first last

/-- Two dates are valid if both are read and the first comes before the second. -/
theorem validateDates_eq_nil_iff {spec : HotNewsSpec} {start stop : String}
    (hstart : spec.dateStart = some start) (hstop : spec.dateEnd = some stop) :
    validateDates spec = [] ↔ ∃ first last, Date.parse? start = some first ∧
      Date.parse? stop = some last ∧ Date.Before first last := by
  simp only [validateDates, readDate, hstart, hstop]
  cases Date.parse? start with
  | none => cases Date.parse? stop <;> simp
  | some first =>
    cases Date.parse? stop with
    | none => simp
    | some last => by_cases hbefore : Date.Before first last <;> simp [hbefore]

/-- The dates of a query stand at the end of its address. -/
theorem pairs_of_dates {endpoint url : Url} {spec : HotNewsSpec} {start stop : String}
    (hstart : spec.dateStart = some start) (hstop : spec.dateEnd = some stop)
    (hurl : queryUrl endpoint spec = .ok url) : ∃ others,
      url.pairs = endpoint.pairs ++ others ++
        [(some "startDate", some (trim start)), (some "endDate", some (trim stop))] ∧
      ∀ p ∈ others, p.1 = some "sources" ∨ p.1 = some "keywords" := by
  unfold queryUrl at hurl
  split at hurl
  · cases hurl
  · cases hurl
    rw [Url.pairs_appendPairs]
    unfold queryParameters
    simp only [hstart, hstop, List.map_append, ← List.append_assoc]
    refine ⟨_, by rw [List.append_assoc endpoint.pairs]; rfl, fun p hp => ?_⟩
    rcases List.mem_append.1 hp with hp | hp
    · left
      rw [List.mem_singleton.1 hp]
    · right
      split at hp
      · cases hp
      · rw [List.mem_singleton.1 hp]

/-- A valid query with dates asks for them as they are spelled. They name two days in order, and
they are asked for in the format if both are tight, and only then. -/
theorem datesInFormat_iff {endpoint url : Url} {spec : HotNewsSpec} {start stop : String}
    (hstart : spec.dateStart = some start) (hstop : spec.dateEnd = some stop)
    (hvalid : validateDates spec = []) (hurl : queryUrl endpoint spec = .ok url) :
    (∃ (others : List (Option String × Option String)) (first last : Date.Spelling),
      url.pairs = endpoint.pairs ++ others ++
        [(some "startDate", some (trim start)), (some "endDate", some (trim stop))] ∧
      (∀ p ∈ others, p.1 = some "sources" ∨ p.1 = some "keywords") ∧
      first.toList = (trim start).toList ∧ last.toList = (trim stop).toList ∧
      first.Lenient ∧ last.Lenient ∧ Date.Before first.date last.date) ∧
    (DatesInFormat url ↔ Date.IsTight (trim start).toList ∧ Date.IsTight (trim stop).toList) := by
  obtain ⟨first, last, hfirst, hlast, hbefore⟩ :=
    (validateDates_eq_nil_iff hstart hstop).1 hvalid
  obtain ⟨others, hpairs, hothers⟩ := pairs_of_dates hstart hstop hurl
  have htext (s : String) : (trim s).toList = trimList s.toList := String.toList_ofList
  have hread : Date.ofList? (trim start).toList = some first := htext start ▸ hfirst
  have hread' : Date.ofList? (trim stop).toList = some last := htext stop ▸ hlast
  constructor
  · obtain ⟨p, hp, hptext, rfl⟩ := Date.ofList?_eq_some_iff.1 hread
    obtain ⟨p', hp', hptext', rfl⟩ := Date.ofList?_eq_some_iff.1 hread'
    exact ⟨others, p, p', hpairs, hothers, hptext, hptext', hp, hp', hbefore⟩
  · rw [← Date.inFormat_iff hread, ← Date.inFormat_iff hread']
    constructor
    · rintro ⟨before, a, b, d, d', hpairs', ha, hb, -⟩
      obtain ⟨-, ⟨⟩⟩ := List.append_inj' (hpairs.symm.trans hpairs') rfl
      cases hread.symm.trans ha.ofList?_eq
      cases hread'.symm.trans hb.ofList?_eq
      exact ⟨ha, hb⟩
    · rintro ⟨ha, hb⟩
      exact ⟨_, _, _, first, last, hpairs, ha, hb, hbefore⟩

namespace AskedDates

def endpoint : Url :=
  ⟨"http", "", none, some (.domain "aggregator.example"), none, .segments ["news"], none, none⟩

def query (start stop : String) : HotNewsSpec :=
  ⟨["election"], some start, some stop, ["bbc"], [], ⟨5⟩⟩

def address (start stop : String) : Url :=
  endpoint.appendPairs (queryParameters (query start stop))

theorem queryUrl_query (start stop : String) :
    queryUrl endpoint (query start stop) = .ok (address start stop) := by
  have hsome : nonblank (query start stop).feedsName ≠ [] := by
    change nonblank ["bbc"] ≠ []
    decide
  exact if_neg hsome

end AskedDates

open AskedDates

/-- Dates with blanks around them. -/
theorem paddedDates_inFormat :
    validateDates (query " 2024-02-29" "2024-03-01\u3000") = [] ∧
      DatesInFormat (address " 2024-02-29" "2024-03-01\u3000") := by
  have hvalid : validateDates (query " 2024-02-29" "2024-03-01\u3000") = [] := by decide +kernel
  obtain ⟨-, hiff⟩ := datesInFormat_iff rfl rfl hvalid (queryUrl_query _ _)
  exact ⟨hvalid, hiff.2 (by decide +kernel)⟩

/-- A valid query whose first month has one digit does not ask for its dates in the format. -/
theorem shortMonth_notInFormat : ¬ ∀ (endpoint url : Url) (spec : HotNewsSpec)
    (start stop : String), spec.dateStart = some start → spec.dateEnd = some stop →
    validateDates spec = [] → queryUrl endpoint spec = .ok url → DatesInFormat url := by
  intro hall
  have hstart : (query "2024-1-5" "2024-02-10").dateStart = some "2024-1-5" := rfl
  have hvalid : validateDates (query "2024-1-5" "2024-02-10") = [] := by decide +kernel
  obtain ⟨before, a, b, d, d', hpairs, ha, -⟩ :=
    hall endpoint _ _ _ _ hstart rfl hvalid (queryUrl_query _ _)
  obtain ⟨others, hpairs', -⟩ := pairs_of_dates hstart rfl (queryUrl_query _ _)
  obtain ⟨-, ⟨⟩⟩ := List.append_inj' (hpairs'.symm.trans hpairs) rfl
  have htight := (Date.inFormat_iff ha.ofList?_eq).1 ha
  revert htight
  decide +kernel

end Newsdesk
