import Newsdesk.Proofs.Text.Names
import Newsdesk.Proofs.Url.Form

/-!
# The address of a query

A query with a source has an address, and one without is refused. The address is that of the
endpoint with the parameters of the query behind the endpoint's own: the sources, the keywords if
there are any, and the dates if there are two (`HotNewsSpec.Asks`). Whoever decodes the address
reads these parameters whatever characters they have (`queryUrl_asks`), as everything that delimits
parameters is encoded in them.

An endpoint may have a query of its own whose bytes are no text. What a reader makes of these is
left open (`ReadsTexts`).
-/

namespace Newsdesk

open Text

/-! ## Lists of names -/

/-- The entries of a list that are not blank, trimmed and with commas between them. -/
def listText (entries : List String) : String :=
  ",".intercalate ((entries.map trim).filter (· ≠ ""))

theorem nonblank_eq (entries : List String) :
    nonblank entries = (entries.map trim).filter (· ≠ "") := by
  unfold nonblank
  induction entries with
  | nil => rfl
  | cons e rest ih =>
    have htrim : trim e = String.ofList (trimList e.toList) := rfl
    by_cases h : trimList e.toList = [] <;>
      simp [h, htrim, String.ofList_eq_empty_iff] at ih ⊢ <;> exact ih

theorem joinNames_nonblank (entries : List String) :
    joinNames (nonblank entries) = listText entries := by
  rw [nonblank_eq]
  rfl

theorem nonblank_eq_nil_iff {entries : List String} :
    nonblank entries = [] ↔ ∀ e ∈ entries, trim e = "" := by
  simp [nonblank_eq, List.filter_eq_nil_iff]

/-! ## Parameters -/

/-- The parameter for keywords, if one of them is not blank. -/
inductive KeywordParameters (keywords : List String) : List (String × String) → Prop
  | asked : (∃ k ∈ keywords, trim k ≠ "") →
      KeywordParameters keywords [("keywords", listText keywords)]
  | blank : (∀ k ∈ keywords, trim k = "") → KeywordParameters keywords []

/-- The parameters for dates, if both of them are set. -/
inductive DateParameters : Option String → Option String → List (String × String) → Prop
  | both (start stop : String) : DateParameters (some start) (some stop)
      [("startDate", trim start), ("endDate", trim stop)]
  | lacking {start stop : Option String} : start = none ∨ stop = none →
      DateParameters start stop []

/-- The parameters of a query, in their order. -/
def HotNewsSpec.Asks (spec : HotNewsSpec) (parameters : List (String × String)) : Prop :=
  ∃ keywords dates, KeywordParameters spec.keywords keywords ∧
    DateParameters spec.dateStart spec.dateEnd dates ∧
    parameters = ("sources", listText spec.feedsName) :: (keywords ++ dates)

theorem asks_queryParameters (spec : HotNewsSpec) : spec.Asks (queryParameters spec) := by
  have hkeywords : KeywordParameters spec.keywords (if nonblank spec.keywords = [] then []
      else [("keywords", joinNames (nonblank spec.keywords))]) := by
    split
    · rename_i hnone
      exact .blank (nonblank_eq_nil_iff.1 hnone)
    · rename_i hsome
      rw [nonblank_eq_nil_iff] at hsome
      obtain ⟨k, hk, hne⟩ := not_forall₂.1 hsome
      rw [joinNames_nonblank]
      exact .asked ⟨k, hk, hne⟩
  obtain ⟨dates, hdates, hparameters⟩ : ∃ dates,
      DateParameters spec.dateStart spec.dateEnd dates ∧ queryParameters spec =
        ("sources", joinNames (nonblank spec.feedsName)) ::
          ((if nonblank spec.keywords = [] then []
            else [("keywords", joinNames (nonblank spec.keywords))]) ++ dates) := by
    unfold queryParameters
    cases spec.dateStart with
    | none => exact ⟨_, .lacking (.inl rfl), rfl⟩
    | some start =>
      cases spec.dateEnd with
      | none => exact ⟨_, .lacking (.inr rfl), rfl⟩
      | some stop => exact ⟨_, .both start stop, rfl⟩
  rw [hparameters, joinNames_nonblank spec.feedsName]
  exact ⟨_, _, hkeywords, hdates, rfl⟩

/-! ## Decoding -/

namespace Url

/-- The bytes that a form-encoded text stands for. -/
def formBytes (cs : List Char) : List UInt8 := percentDecode (cs.map readPlus)

/-- A reader of bytes that reads every text from its UTF-8 form. It may make anything of bytes that
are no UTF-8. -/
def ReadsTexts (read : List UInt8 → String) : Prop :=
  ∀ s : String, read (s.toList.flatMap String.utf8EncodeChar) = s

/-- The names and values in the query of a URL, as a reader of bytes reads them. -/
def pairsBy (read : List UInt8 → String) (url : Url) : List (String × String) :=
  readPairs (fun cs => read (formBytes cs)) (url.query.getD "").toList

theorem pairsBy_appendPairs {read : List UInt8 → String} (hread : ReadsTexts read) (url : Url)
    (added : List (String × String)) :
    (url.appendPairs added).pairsBy read = url.pairsBy read ++ added := by
  have htext (s : String) : read (formBytes (formEncode s.toList)) = s := by
    rw [formBytes, percentDecode_formEncode, hread s]
  have hquery := readPairs_appendedQuery (fun cs => read (formBytes cs)) url.query added
  have hadded : added.map (fun p => (p.1, p.2)) = added := List.map_id' added
  simp only [htext, hadded] at hquery
  simpa only [pairsBy, appendPairs, Option.getD_some, String.toList_ofList] using hquery

/-- The characters of names and values in a query, and of what stands between them. -/
def isFormChar (c : Char) : Bool := isFormSafe c || ['+', '%', '=', '&'].contains c

theorem isFormChar_of_mem_formPair {name value : String} {c : Char} (h : c ∈ formPair name value) :
    isFormChar c = true := by
  have hencoded {cs : List Char} (hc : c ∈ formEncode cs) : isFormChar c = true := by
    obtain hsafe | rfl | rfl := mem_formEncode hc
    · rw [isFormChar, hsafe]
      rfl
    · decide
    · decide
  obtain hc | hc := List.mem_append.1 h
  · exact hencoded hc
  · obtain rfl | hc := List.mem_cons.1 hc
    · decide
    · exact hencoded hc

theorem isFormChar_of_mem_encodePairs {pairs : List (String × String)} {c : Char}
    (h : c ∈ encodePairs pairs) : isFormChar c = true := by
  induction pairs with
  | nil => cases h
  | cons p rest ih =>
    cases rest with
    | nil =>
      rw [encodePairs_singleton] at h
      exact isFormChar_of_mem_formPair h
    | cons q rest =>
      rw [encodePairs_cons_cons] at h
      obtain hc | hc := List.mem_append.1 h
      · exact isFormChar_of_mem_formPair hc
      · obtain rfl | hc := List.mem_cons.1 hc
        · decide
        · exact ih hc

end Url

/-! ## Addresses -/

/-- The address of a query: the endpoint with the parameters of the query behind its own. In what
is added to the text of the endpoint every character that has a meaning of its own is encoded. -/
structure Url.IsAddressOf (url endpoint : Url) (spec : HotNewsSpec) : Prop where
  scheme : url.scheme = endpoint.scheme
  username : url.username = endpoint.username
  password : url.password = endpoint.password
  host : url.host = endpoint.host
  port : url.port = endpoint.port
  path : url.path = endpoint.path
  fragment : url.fragment = endpoint.fragment
  pairs : ∃ parameters, spec.Asks parameters ∧ ∀ read, Url.ReadsTexts read →
    url.pairsBy read = endpoint.pairsBy read ++ parameters
  written : ∃ added, url.query = some (String.ofList ((endpoint.query.getD "").toList ++ added)) ∧
    ∀ c ∈ added, Url.isFormChar c = true

theorem isAddressOf_appendPairs (endpoint : Url) (spec : HotNewsSpec) :
    (endpoint.appendPairs (queryParameters spec)).IsAddressOf endpoint spec := by
  refine ⟨rfl, rfl, rfl, rfl, rfl, rfl, rfl, ⟨_, asks_queryParameters spec, fun read hread =>
    Url.pairsBy_appendPairs hread endpoint _⟩, ?_⟩
  unfold Url.appendPairs Url.appendedQuery
  cases endpoint.query with
  | none => exact ⟨_, rfl, fun c => Url.isFormChar_of_mem_encodePairs⟩
  | some q =>
    dsimp only [Option.getD_some]
    split
    · rename_i hempty
      rw [hempty]
      exact ⟨_, rfl, fun c => Url.isFormChar_of_mem_encodePairs⟩
    · refine ⟨_, rfl, fun c hc => ?_⟩
      obtain rfl | hc := List.mem_cons.1 hc
      · decide
      · exact Url.isFormChar_of_mem_encodePairs hc

/-- A query is refused if all its sources are blank, and only then. Any other query has an address,
in which the parameters of the query are read behind those of the endpoint. -/
theorem queryUrl_asks (endpoint : Url) (spec : HotNewsSpec) :
    (queryUrl endpoint spec = .error .noFeedsResolved ↔ ∀ name ∈ spec.feedsName, trim name = "") ∧
    (queryUrl endpoint spec = .error .noFeedsResolved ∨
      ∃ url, queryUrl endpoint spec = .ok url ∧ url.IsAddressOf endpoint spec) := by
  rw [← nonblank_eq_nil_iff]
  unfold queryUrl
  by_cases hnone : nonblank spec.feedsName = []
  · rw [if_pos hnone]
    exact ⟨iff_of_true rfl hnone, .inl rfl⟩
  · rw [if_neg hnone]
    exact ⟨iff_of_false nofun hnone, .inr ⟨_, rfl, isAddressOf_appendPairs endpoint spec⟩⟩

namespace ReservedText

/-- An endpoint with a query and a fragment of its own. -/
def endpoint : Url :=
  ⟨"https", "desk", none, some (.domain "aggregator.example"), none, .segments ["news"],
    some "page=1&", some "top"⟩

/-- A query whose texts are full of characters that delimit something in an address. -/
def query : HotNewsSpec :=
  ⟨["a=b", "\t"], some " 2024-01-01", some "#\n%41", [" r&d ", "", "+1 %\u00e9\u3000"], [], ⟨5⟩⟩

/-- A reader that has one text for all bytes that are no UTF-8. -/
def read (bytes : List UInt8) : String :=
  ((Url.Domain.ofUtf8? bytes).map String.ofList).getD "\uFFFD"

theorem readsTexts_read : Url.ReadsTexts read := by
  intro s
  rw [read, Url.ofUtf8?_flatMap, Option.map_some, Option.getD_some, String.ofList_toList]

end ReservedText

open ReservedText

/-- Texts with delimiters, escapes and controls are read from an address as they are. -/
theorem reservedText_asked : ∃ url, queryUrl endpoint query = .ok url ∧
    url.fragment = some "top" ∧ Url.ReadsTexts read ∧ url.pairsBy read =
      [("page", "1"), ("sources", "r&d,+1 %\u00e9"), ("keywords", "a=b"),
        ("startDate", "2024-01-01"), ("endDate", "#\n%41")] := by
  obtain ⟨hrefused, houtcome⟩ := queryUrl_asks endpoint query
  have hsome : ¬ ∀ name ∈ query.feedsName, trim name = "" := by decide +kernel
  obtain ⟨url, hurl, haddress⟩ := houtcome.resolve_left fun hnone => hsome (hrefused.1 hnone)
  refine ⟨url, hurl, haddress.fragment, readsTexts_read, ?_⟩
  obtain ⟨parameters, ⟨keywords, dates, hkeywords, hdates, rfl⟩, hpairs⟩ := haddress.pairs
  have hown : endpoint.pairsBy read = [("page", "1")] := by decide +kernel
  have hsources : listText query.feedsName = "r&d,+1 %\u00e9" := by decide +kernel
  rw [hpairs read readsTexts_read, hown, hsources]
  cases hkeywords with
  | blank hblank => exact absurd hblank (by decide +kernel)
  | asked =>
    cases hdates with
    | lacking hlacking => exact absurd hlacking (by decide)
    | both => decide +kernel

end Newsdesk
