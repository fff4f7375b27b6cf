import Newsdesk.Admission.FieldError
import Newsdesk.Resource.Object
import Newsdesk.Text.Blank
import Newsdesk.Url.Reader

/-!
# Rules for feeds

A feed has a name of at most twenty characters, which no other feed of its namespace has, and
the URL of a host.
-/

namespace Newsdesk

open Text

/-- The greatest length of the name of a feed. -/
def maxFeedNameLength : Nat := 20

/-- What is wrong with the name of a feed. -/
def feedNameErrors (name : String) : List FieldError :=
  let name := trimList name.toList
  if name = [] then [⟨"spec.name", "name is required"⟩]
  else if maxFeedNameLength < name.length then
    [⟨"spec.name", "name must not exceed " ++ toString maxFeedNameLength ++ " characters"⟩]
  else []

/-- What is wrong with the URL of a feed. -/
def feedUrlErrors (url : String) : List FieldError :=
  let url := trim url
  if url = "" then [⟨"spec.url", "url is required"⟩]
  else
    match Url.parse url with
    | .ok parsed =>
      if parsed.hasHost then []
      else [⟨"spec.url", "url '" ++ url ++ "' must include a scheme and a host"⟩]
    | .error e =>
      [⟨"spec.url", "url '" ++ url ++ "' is not a valid absolute URL: " ++ e.message⟩]

/-- What is wrong with the specification of a feed. -/
def validateFeedSpec (spec : FeedSpec) : List FieldError :=
  feedNameErrors spec.name ++ feedUrlErrors spec.url

/-- Whether two objects are known to be the same. -/
def sameObject (a b : Metadata) : Bool := a.uid.isSome && a.uid = b.uid

/-- The violation when another feed has the name of a feed. -/
def duplicateName? (feed : Feed) (existing : List Feed) : Option FieldError :=
  let name := trim feed.spec.name
  (existing.find? fun other =>
    !sameObject feed.metadata other.metadata && trim other.spec.name = name).map fun other =>
      ⟨"spec.name", "name '" ++ name ++ "' is already used by Feed '" ++
        other.metadata.displayName ++ "' in this namespace"⟩

end Newsdesk
