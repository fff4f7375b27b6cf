import Newsdesk.Admission.FieldError
import Newsdesk.Query.Groups

/-!
# Rules for feed groups

Every group lists at least one feed, and only feeds that exist.
-/

namespace Newsdesk

/-- What is wrong with a group, given the names of the feeds of its namespace. -/
def groupErrors (feeds : List String) (group value : String) : List FieldError :=
  let field := "data." ++ group
  match splitNames value with
  | [] => [⟨field, "feed group must list at least one Feed"⟩]
  | names =>
    names.filterMap fun name =>
      if feeds.contains name then none else some ⟨field, missingFeedMessage name⟩

/-- What is wrong with the groups of a config map. -/
def validateGroups (data : List (String × String)) (feeds : List String) : List FieldError :=
  data.flatMap fun (group, value) => groupErrors feeds group value

end Newsdesk
