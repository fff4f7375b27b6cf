import Newsdesk.Proofs.Admission.Answered
import Newsdesk.Proofs.Admission.Defaults
import Newsdesk.Proofs.Text.Names

/-!
# Queries with defaults are judged alike

A query gets its defaults before it is reviewed. The feeds that are filled in exist, so the review
reports the same violations with and without them, and a number of titles that is filled in is the
one the operator falls back to. A query that is given again with its defaults is left as it is
(`Completes`).
-/

namespace Newsdesk

open Text

variable {spec : HotNewsSpec} {feeds : List String}

/-- A query was given its defaults among the feeds of its namespace. -/
structure Completes (feeds : List String) (spec : HotNewsSpec) (d : Defaulted) : Prop where
  violations : validateSpec d.spec feeds = validateSpec spec feeds
  titles : titlesCount d.spec = titlesCount spec
  /-- Only the feeds and the number of titles may be others. -/
  others : d.spec = { spec with
    summaryConfig := d.spec.summaryConfig, feedsName := d.spec.feedsName }
  filled : d.spec.feedsName ≠ spec.feedsName →
    spec.feedsName = [] ∧ spec.feedGroups = [] ∧ feeds ≠ []
  again : defaultSpec d.spec feeds = d
  counted : d.spec.summaryConfig.titlesCount ≠ 0
  /-- A query without feeds and groups comes with a warning. -/
  warned : d.warnings = [] → ¬(d.spec.feedsName = [] ∧ d.spec.feedGroups = [])

/-! ## Names -/

theorem trim_of_mem_trimmedNames {found : List Feed} {name : String}
    (h : name ∈ trimmedNames found) : trim name = name := by
  obtain ⟨f, -, rfl⟩ := List.mem_map.1 h
  exact trim_trim _

/-! ## What the defaults change -/

theorem validateSpec_defaultSpec (h : ∀ name ∈ feeds, trim name = name) :
    validateSpec (defaultSpec spec feeds).spec feeds = validateSpec spec feeds := by
  have hnames : feedsNameErrors (defaultSpec spec feeds).spec.feedsName feeds =
      feedsNameErrors spec.feedsName feeds := by
    rw [defaultSpec_feedsName]
    split
    · rename_i hneeds
      rw [((needsFeeds_iff spec).1 hneeds).1,
        feedsNameErrors_eq_nil_iff.2 fun name hname => (h name hname).symm ▸ hname]
      rfl
    · rfl
  -- dates and keywords are those of the query
  exact congrArg (validateDates spec ++ keywordErrors spec.keywords ++ ·) hnames

theorem titlesCount_defaultSpec (spec : HotNewsSpec) (feeds : List String) :
    titlesCount (defaultSpec spec feeds).spec = titlesCount spec := by
  unfold titlesCount
  rw [defaultSpec_summaryConfig]
  by_cases h : spec.summaryConfig.titlesCount = 0
  · rw [if_pos h, h]
    decide
  · rw [if_neg h]

theorem feedsName_defaultSpec_ne (h : (defaultSpec spec feeds).spec.feedsName ≠ spec.feedsName) :
    spec.feedsName = [] ∧ spec.feedGroups = [] ∧ feeds ≠ [] := by
  rw [defaultSpec_feedsName] at h
  split at h
  · rename_i hneeds
    obtain ⟨hnames, hgroups⟩ := (needsFeeds_iff spec).1 hneeds
    exact ⟨hnames, hgroups, fun hnone => h (hnone.trans hnames.symm)⟩
  · exact absurd rfl h

theorem needsFeeds_defaultSpec : (defaultSpec spec feeds).spec.needsFeeds = true ↔
    spec.needsFeeds = true ∧ feeds = [] := by
  rw [needsFeeds_iff, defaultSpec_feedsName]
  split
  · rename_i hneeds
    obtain ⟨-, hgroups⟩ := (needsFeeds_iff spec).1 hneeds
    exact ⟨fun h => ⟨hneeds, h.1⟩, fun h => ⟨h.2, hgroups⟩⟩
  · rename_i hnot
    exact iff_of_false (fun h => hnot ((needsFeeds_iff spec).2 h)) fun h => hnot h.1

/-- The warning is given exactly for a query that still needs feeds. -/
theorem warnings_defaultSpec : (defaultSpec spec feeds).warnings =
    if (defaultSpec spec feeds).spec.needsFeeds then [noFeedsWarning] else [] := by
  simp only [needsFeeds_defaultSpec]
  rfl

theorem defaultSpec_again (spec : HotNewsSpec) (feeds : List String) :
    defaultSpec (defaultSpec spec feeds).spec feeds = defaultSpec spec feeds := by
  have hspec := defaultSpec_defaultSpec spec feeds
  have hwarnings : (defaultSpec (defaultSpec spec feeds).spec feeds).warnings =
      (defaultSpec spec feeds).warnings := by
    rw [warnings_defaultSpec, hspec, warnings_defaultSpec]
  exact congrArg₂ Defaulted.mk hspec hwarnings

theorem titlesCount_defaultSpec_ne_zero :
    (defaultSpec spec feeds).spec.summaryConfig.titlesCount ≠ 0 := by
  rw [defaultSpec_summaryConfig]
  split
  · decide
  · assumption

/-- The defaults of a query neither hide nor create violations, and are given once. -/
theorem defaultSpec_completes (h : ∀ name ∈ feeds, trim name = name) (spec : HotNewsSpec) :
    Completes feeds spec (defaultSpec spec feeds) where
  violations := validateSpec_defaultSpec h
  titles := titlesCount_defaultSpec spec feeds
  others := rfl
  filled := feedsName_defaultSpec_ne
  again := defaultSpec_again spec feeds
  counted := titlesCount_defaultSpec_ne_zero
  warned hnone hneither := by
    rw [warnings_defaultSpec, if_pos ((needsFeeds_iff _).2 hneither)] at hnone
    cases hnone

namespace UncountedQuery

def found : List Feed := [⟨.empty, ⟨"\u3000bbc world ", "http://feeds.example/bbc"⟩, none⟩]

/-- A blank keyword, one date without the other, no feeds, and a negative number of titles. -/
def query : HotNewsSpec := ⟨["\u2003"], some "2024-01-01", none, [], [], ⟨-3⟩⟩

end UncountedQuery

open UncountedQuery

theorem uncountedQuery_completed : (∀ name ∈ trimmedNames found, trim name = name) ∧
    Completes (trimmedNames found) query
      ⟨{ query with feedsName := ["bbc world"] }, []⟩ ∧ titlesCount query = 10 := by
  have hnames : ∀ name ∈ trimmedNames found, trim name = name := fun _ => trim_of_mem_trimmedNames
  have hcompletes := defaultSpec_completes hnames query
  have hdefaults : defaultSpec query (trimmedNames found) =
      ⟨{ query with feedsName := ["bbc world"] }, []⟩ := by
    decide +kernel
  exact ⟨hnames, hdefaults ▸ hcompletes, rfl⟩

end Newsdesk
